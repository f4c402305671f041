import SignedRequest.Algorithm.Basic
import SignedRequest.Algorithm.Custom
import SignedRequest.Algorithm.Ecdsa
import SignedRequest.Algorithm.Hash
import SignedRequest.Algorithm.Hmac
import SignedRequest.Algorithm.KeyDocument
import SignedRequest.Algorithm.Kind
import SignedRequest.Algorithm.Registry
import SignedRequest.Algorithm.Rsa
import SignedRequest.Authorization.Parameters
import SignedRequest.Authorization.Parse
import SignedRequest.Authorization.Span
import SignedRequest.Authorization.Token
import SignedRequest.Bytes
import SignedRequest.CommandLine.Arguments
import SignedRequest.CommandLine.Run
import SignedRequest.Configuration.Signing
import SignedRequest.Configuration.Toml.Document
import SignedRequest.Configuration.Toml.Quoted
import SignedRequest.Configuration.Toml.Scalar
import SignedRequest.Configuration.Toml.Tree
import SignedRequest.Configuration.Value
import SignedRequest.Configuration.Verification
import SignedRequest.Crypto.Curve
import SignedRequest.Crypto.Ecdsa
import SignedRequest.Crypto.Hmac
import SignedRequest.Crypto.Modular
import SignedRequest.Crypto.Pkcs8
import SignedRequest.Crypto.Rsa
import SignedRequest.Crypto.Sha2
import SignedRequest.Digest
import SignedRequest.Encoding.Base64
import SignedRequest.Encoding.Der
import SignedRequest.Encoding.Pem
import SignedRequest.Encoding.Percent
import SignedRequest.Error
import SignedRequest.Header
import SignedRequest.Http.Field
import SignedRequest.Http.Method
import SignedRequest.Http.Request
import SignedRequest.Http.Target
import SignedRequest.KeyId
import SignedRequest.Main
import SignedRequest.Policy
import SignedRequest.Proofs.Algorithm.PublicKey
import SignedRequest.Proofs.Authorization.Contents
import SignedRequest.Proofs.Authorization.Continuation
import SignedRequest.Proofs.Authorization.Diagnosis
import SignedRequest.Proofs.Authorization.Grammar
import SignedRequest.Proofs.Authorization.Language
import SignedRequest.Proofs.Authorization.NormalForm
import SignedRequest.Proofs.Authorization.Places
import SignedRequest.Proofs.Authorization.Reading
import SignedRequest.Proofs.Authorization.RoundTrip
import SignedRequest.Proofs.Authorization.Scheme
import SignedRequest.Proofs.Authorization.Separators
import SignedRequest.Proofs.Authorization.Tokens
import SignedRequest.Proofs.CommandLine.Authorization
import SignedRequest.Proofs.CommandLine.Changes
import SignedRequest.Proofs.CommandLine.HeaderLines
import SignedRequest.Proofs.CommandLine.Printed
import SignedRequest.Proofs.CommandLine.Rebuilt
import SignedRequest.Proofs.CommandLine.Receiver
import SignedRequest.Proofs.CommandLine.Requests
import SignedRequest.Proofs.CommandLine.RoundTrip
import SignedRequest.Proofs.CommandLine.Trip
import SignedRequest.Proofs.Configuration.Client
import SignedRequest.Proofs.Digest
import SignedRequest.Proofs.Encoding.Base64
import SignedRequest.Proofs.Encoding.Der
import SignedRequest.Proofs.Header
import SignedRequest.Proofs.Header.Line
import SignedRequest.Proofs.Http.Fields
import SignedRequest.Proofs.Http.Writable
import SignedRequest.Proofs.HttpDate
import SignedRequest.Proofs.Outcome
import SignedRequest.Proofs.Policy
import SignedRequest.Proofs.RoundTrip
import SignedRequest.Proofs.Signing.Additions
import SignedRequest.Proofs.Signing.Family
import SignedRequest.Proofs.Signing.Frame
import SignedRequest.Proofs.Signing.HeaderList
import SignedRequest.Proofs.Signing.Injection
import SignedRequest.Proofs.Signing.Message
import SignedRequest.Proofs.Signing.NameOrder
import SignedRequest.Proofs.Signing.Presence
import SignedRequest.Proofs.Signing.ReadBack
import SignedRequest.Proofs.Signing.Repetition
import SignedRequest.Proofs.Signing.Requirement
import SignedRequest.Proofs.Signing.Standard
import SignedRequest.Proofs.Signing.Steps
import SignedRequest.Proofs.SigningString
import SignedRequest.Proofs.SigningString.Combined
import SignedRequest.Proofs.SigningString.Lines
import SignedRequest.Proofs.SigningString.NameList
import SignedRequest.Proofs.SigningString.NonceLine
import SignedRequest.Proofs.SigningString.Tampering
import SignedRequest.Proofs.SigningString.TargetForm
import SignedRequest.Proofs.Text.Ascii
import SignedRequest.Proofs.Text.Lines
import SignedRequest.Proofs.Text.LowerCase
import SignedRequest.Proofs.Text.Pieces
import SignedRequest.Proofs.Text.SmallLetters
import SignedRequest.Proofs.Text.Utf8
import SignedRequest.Proofs.Text.Words
import SignedRequest.Proofs.Time
import SignedRequest.Proofs.Time.Words
import SignedRequest.Proofs.Timestamps
import SignedRequest.Proofs.Verification.Acceptance
import SignedRequest.Proofs.Verification.Answers
import SignedRequest.Proofs.Verification.CacheFreshness
import SignedRequest.Proofs.Verification.Checks
import SignedRequest.Proofs.Verification.Covered
import SignedRequest.Proofs.Verification.Disclosure
import SignedRequest.Proofs.Verification.Forbidden
import SignedRequest.Proofs.Verification.ListedNames
import SignedRequest.Proofs.Verification.NonceRemoval
import SignedRequest.Proofs.Verification.NonceRuns
import SignedRequest.Proofs.Verification.NonceUse
import SignedRequest.Proofs.Verification.Replay
import SignedRequest.Proofs.Verification.ReplayWindow
import SignedRequest.Proofs.Verification.SharedCache
import SignedRequest.Proofs.Verification.TimeWindow
import SignedRequest.Secret
import SignedRequest.Signature
import SignedRequest.Signing.Creation
import SignedRequest.Signing.HeaderList
import SignedRequest.Signing.Hooks
import SignedRequest.Signing.Injection
import SignedRequest.Signing.Settings
import SignedRequest.Signing.Signer
import SignedRequest.SigningString
import SignedRequest.Table
import SignedRequest.Text.Blank
import SignedRequest.Text.Case
import SignedRequest.Text.CaseTable
import SignedRequest.Text.Separator
import SignedRequest.Text.Utf8
import SignedRequest.Time
import SignedRequest.Time.Clock
import SignedRequest.Time.HttpDate
import SignedRequest.Verification.Check
import SignedRequest.Verification.Client
import SignedRequest.Verification.ClientCache
import SignedRequest.Verification.ClientStore
import SignedRequest.Verification.NonceStore
import SignedRequest.Verification.Verifier
