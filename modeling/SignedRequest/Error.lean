import SignedRequest.Header
import SignedRequest.KeyId

/-!
What can go wrong, by cause, and the message for each cause. Causes that lie in a foreign format
have no message of their own here.
-/

namespace SignedRequest

inductive KeyIdOwner where
  | signature
  | signingSettings
  deriving DecidableEq, Repr

def KeyIdOwner.describe : KeyIdOwner → String
  | signature => "signature"
  | signingSettings => "signing settings"

inductive ValidationError where
  | missingAuthorizationScheme
  | missingExpiration
  | missingHeaders
  | missingKeyId (owner : KeyIdOwner)
  | missingSecret
  | missingSignatureString
  | unknownAlgorithmFamily (family : String)
  deriving DecidableEq, Repr

def ValidationError.message : ValidationError → String
  | missingAuthorizationScheme =>
    "The signing settings do not specify a valid authorization scheme"
  | missingExpiration => "The signing settings do not specify a valid expiration duration"
  | missingHeaders =>
    "The signing settings do not specify valid headers to include in the signature"
  | missingKeyId owner => "The " ++ owner.describe ++ " does not specify a valid key ID"
  | missingSecret => "The signing settings do not specify a valid secret"
  | missingSignatureString => "The signature does not specify a valid signature string"
  | unknownAlgorithmFamily family =>
    "The algorithm family '" ++ family ++ "' has no mandatory header policy"

inductive Timestamp where
  | created
  | expires
  deriving DecidableEq, Repr

def Timestamp.parameter : Timestamp → String
  | created => "created"
  | expires => "expires"

inductive VerificationError where
  | algorithmMismatch
  | createdInFuture
  | digestMismatch
  | expired
  | headerNotAllowed (name : HeaderName)
  | invalidSignature
  | missingHeader (name : HeaderName)
  | missingTimestamp (timestamp : Timestamp)
  | replayedNonce
  | signatureMismatch
  | unknownClient
  | unsupportedAlgorithm (identifier : String)
  deriving Repr

def VerificationError.message : VerificationError → String
  | algorithmMismatch => "The signature algorithm does not match the algorithm of the client"
  | createdInFuture => "The signature was created in the future"
  | digestMismatch => "The digest header does not match the request body"
  | expired => "The signature has expired"
  | headerNotAllowed name =>
    "The '" ++ name.text ++ "' header is not allowed for the signature algorithm"
  | invalidSignature => "The request does not contain a valid signature"
  | missingHeader name => "The '" ++ name.text ++ "' header is required but is missing"
  | missingTimestamp timestamp =>
    "The signature does not contain a value for the " ++ timestamp.parameter ++
      " property, but it is required"
  | replayedNonce => "The nonce has already been used"
  | signatureMismatch => "The signature string does not match the expected value"
  | unknownClient => "No client with the specified key ID is registered"
  | unsupportedAlgorithm identifier =>
    "The signature algorithm '" ++ identifier ++ "' is not supported"

inductive KeyError where
  | syntaxError
  /-- The numbers of the key were refused. -/
  | rejected
  | malformedKey
  | unsupportedCurve
  | unknownKeyType
  deriving DecidableEq, Repr

def KeyError.message? : KeyError → Option String
  | syntaxError => none
  | rejected => none
  | malformedKey => some "Malformed key"
  | unsupportedCurve => some "Unsupported elliptic curve"
  | unknownKeyType => some "Unknown key type"

/-- An argument that is empty or otherwise of no use. -/
inductive Argument where
  | content
  | signature
  | secret
  | expires
  | keyId
  | nonceLifetime
  | clientKeyId
  | clientKey
  deriving DecidableEq, Repr

def Argument.describe : Argument → String
  | content => "content"
  | signature => "signature"
  | secret => "secret"
  | expires => "expires"
  | keyId => "key_id"
  | nonceLifetime => "nonce_lifetime"
  | clientKeyId => "key-id"
  | clientKey => "secret or public-key"

inductive Error where
  | duplicateClient (keyId : KeyId)
  | hook (reason : String)
  | invalidArgument (argument : Argument)
  | invalidFieldValue
  | key (error : KeyError)
  /-- A key that is not in one of the textual documents was refused. -/
  | keyRejected
  | missingPrivateKey
  /-- A private key does not give signatures that its public key accepts. -/
  | signingFailed
  | store (reason : String)
  | timeBeforeEpoch
  | clockOutOfRange
  /-- A time without a date of four-digit years. -/
  | dateOutOfRange
  | unsupportedAlgorithm (family hash : String)
  | validation (error : ValidationError)
  | verification (error : VerificationError)
  deriving Repr

def Error.message? : Error → Option String
  | duplicateClient keyId =>
    some ("A client with key ID '" ++ keyId.text ++ "' is already registered")
  | hook _ => some "Signing hook failed"
  | invalidArgument argument => some ("Invalid argument: " ++ argument.describe)
  | invalidFieldValue => none
  | key error => error.message?
  | keyRejected => none
  | missingPrivateKey => some "Signature algorithm requires a private key to sign"
  | signingFailed => none
  | store _ => some "Store operation failed"
  | timeBeforeEpoch => none
  | clockOutOfRange => none
  | dateOutOfRange => none
  | unsupportedAlgorithm family hash =>
    some ("Unsupported signature algorithm '" ++ family ++ "' with hash '" ++ hash ++ "'")
  | validation error => some error.message
  | verification error => some error.message

def Error.source? : Error → Option String
  | hook reason => some reason
  | store reason => some reason
  | _ => none

end SignedRequest
