/-
JSON Web Tokens as PyJWT handles them, and the token a bot signs.

PyJWT is a parameter: its encoder, its two decodes and its signature check.  What the
code relies on is stated as separate structures, so that a result names exactly the
behaviour of PyJWT it needs.
-/

import Pybotx.Models.BotAccount

set_option autoImplicit false

namespace Pybotx

abbrev Claims := List (String × Json)

/-- PyJWT raises its errors with a message as first argument, which is `exc.args[0]`. -/
structure JwtError where
  message : String
  others : List String

structure DecodeCall where
  key : String
  algorithms : List String
  issuer : Option String
  audience : Option String
  leeway : Int
  verifyAud : Bool
  verifyIss : Bool

/-- `decodeUnverified` is `jwt.decode` with `verify_signature` off; it fails with
`DecodeError`.  `decode` reads the clock and fails with `InvalidTokenError`. -/
structure PyJWT where
  encode : Claims → String → String → String
  decodeUnverified : String → List String → Except JwtError Claims
  decode : Int → String → DecodeCall → Except JwtError Claims
  signatureValid : String → String → String → Prop
  numericDate : Json → Option Int

def decodeAlgorithms : List String := ["HS256"]

def timeClaim (numericDate : Json → Option Int) (name : String) (accepts : Int → Bool)
    (claims : Claims) : Bool :=
  match Dict.get name claims with
  | none => true
  | some value => (numericDate value).any accepts

structure TimesHold (numericDate : Json → Option Int) (now leeway : Int)
    (claims : Claims) : Prop where
  exp : timeClaim numericDate "exp" (fun exp => now - leeway < exp) claims = true
  nbf : timeClaim numericDate "nbf" (fun nbf => nbf ≤ now + leeway) claims = true
  iat : timeClaim numericDate "iat" (fun iat => iat ≤ now + leeway) claims = true

def issuerChecked (call : DecodeCall) (claims : Claims) : Bool :=
  if call.verifyIss then
    call.issuer.all fun issuer => (Dict.get "iss" claims).any (Json.equalsStr issuer)
  else true

/-- The `aud` claim is a string or a list of strings.  An empty one counts as none, and with no
audience to compare there must be none. -/
def audienceChecked (call : DecodeCall) (claims : Claims) : Bool :=
  let aud := (Dict.get "aud" claims).getD .null
  if call.verifyAud then
    match call.audience, aud with
    | none, aud => !aud.truthy
    | some audience, .arr listed =>
        listed.all Json.isStr && listed.any (Json.equalsStr audience)
    | some audience, aud => aud.truthy && aud.equalsStr audience
  else true

def stringClaim (name : String) (claims : Claims) : Bool :=
  (Dict.get name claims).all Json.isStr

/-- The checks of a call that requires no claim and asks for no subject. -/
structure ClaimsHold (numericDate : Json → Option Int) (now : Int) (call : DecodeCall)
    (claims : Claims) : Prop where
  times : TimesHold numericDate now call.leeway claims
  issuer : issuerChecked call claims = true
  audience : audienceChecked call claims = true
  subject : stringClaim "sub" claims = true
  tokenId : stringClaim "jti" claims = true

instance (numericDate : Json → Option Int) (now leeway : Int) (claims : Claims) :
    Decidable (TimesHold numericDate now leeway claims) :=
  decidable_of_iff
    (timeClaim numericDate "exp" (fun exp => now - leeway < exp) claims = true ∧
      timeClaim numericDate "nbf" (fun nbf => nbf ≤ now + leeway) claims = true ∧
      timeClaim numericDate "iat" (fun iat => iat ≤ now + leeway) claims = true)
    ⟨fun held => ⟨held.1, held.2.1, held.2.2⟩, fun held => ⟨held.exp, held.nbf, held.iat⟩⟩

instance (numericDate : Json → Option Int) (now : Int) (call : DecodeCall) (claims : Claims) :
    Decidable (ClaimsHold numericDate now call claims) :=
  decidable_of_iff
    (TimesHold numericDate now call.leeway claims ∧ issuerChecked call claims = true ∧
      audienceChecked call claims = true ∧ stringClaim "sub" claims = true ∧
      stringClaim "jti" claims = true)
    ⟨fun held => ⟨held.1, held.2.1, held.2.2.1, held.2.2.2.1, held.2.2.2.2⟩,
      fun held => ⟨held.times, held.issuer, held.audience, held.subject, held.tokenId⟩⟩

theorem issuer_of_checked (call : DecodeCall) (claims : Claims) (issuer : String)
    (verifies : call.verifyIss = true) (requested : call.issuer = some issuer)
    (checked : issuerChecked call claims = true) :
    Dict.get "iss" claims = some (.str issuer) := by
  unfold issuerChecked at checked
  rw [if_pos verifies, requested] at checked
  cases found : Dict.get "iss" claims with
  | none =>
      rw [found] at checked
      cases checked
  | some value =>
      rw [found] at checked
      rw [(Json.equalsStr_iff issuer value).mp checked]

namespace PyJWT

variable (jwt : PyJWT)

/-- A verifying decode returns only if every requested check passes, and it returns the
claims that the unverified decode of the same token returns. -/
structure DecodeSound : Prop where
  signature : ∀ now token call claims, jwt.decode now token call = .ok claims →
    ∃ algorithm ∈ call.algorithms, jwt.signatureValid algorithm token call.key
  checks : ∀ now token call claims, jwt.decode now token call = .ok claims →
    ClaimsHold jwt.numericDate now call claims
  samePayload : ∀ now token call claims, jwt.decode now token call = .ok claims →
    jwt.decodeUnverified token call.algorithms = .ok claims

def SignedUnder (token key : String) : Prop :=
  ∀ candidate, jwt.signatureValid "HS256" token candidate ↔ candidate = key

/-- Encoding these claims under this key and decoding the token gives the claims back:
always without verification, and under the same key exactly if the checks pass. -/
structure RoundTrip (claims : Claims) (key : String) : Prop where
  nonempty : (jwt.encode claims key "HS256").toList ≠ []
  solid : ∀ c ∈ (jwt.encode claims key "HS256").toList, Text.isSpace c = false
  unverified : jwt.decodeUnverified (jwt.encode claims key "HS256") decodeAlgorithms = .ok claims
  verified : ∀ now call, call.key = key → call.algorithms = decodeAlgorithms →
    ((∃ returned, jwt.decode now (jwt.encode claims key "HS256") call = .ok returned) ↔
      ClaimsHold jwt.numericDate now call claims)
  dates : ∀ date, jwt.numericDate (.int date) = some date

def integerDate : Json → Option Int
  | .int date => some date
  | _ => none

/-- PyJWT as it behaves on one token, made of these claims under this key.  Every other
text is refused as malformed. -/
def ofToken (token key : String) (claims : Claims) : PyJWT where
  encode := fun _ _ _ => token
  decodeUnverified := fun text _ =>
    if text = token then .ok claims else .error ⟨"Not enough segments", []⟩
  decode := fun now text call =>
    if text = token then
      if call.key = key ∧ "HS256" ∈ call.algorithms then
        if ClaimsHold integerDate now call claims then .ok claims
        else .error ⟨"Signature has expired", []⟩
      else .error ⟨"Signature verification failed", []⟩
    else .error ⟨"Not enough segments", []⟩
  signatureValid := fun algorithm text candidate =>
    algorithm = "HS256" ∧ text = token ∧ candidate = key
  numericDate := integerDate

variable (token key : String) (claims : Claims)

theorem ofToken_decode_eq_ok_iff (now : Int) (text : String) (call : DecodeCall)
    (returned : Claims) :
    (ofToken token key claims).decode now text call = .ok returned ↔
      text = token ∧ call.key = key ∧ "HS256" ∈ call.algorithms ∧
        ClaimsHold (ofToken token key claims).numericDate now call claims ∧
        returned = claims := by
  simp only [ofToken]
  constructor
  · intro decoded
    split at decoded
    · rename_i sameToken
      split at decoded
      · rename_i signed
        split at decoded
        · rename_i held
          cases decoded
          exact ⟨sameToken, signed.1, signed.2, held, rfl⟩
        · cases decoded
      · cases decoded
    · cases decoded
  · rintro ⟨sameToken, sameKey, listed, held, rfl⟩
    rw [if_pos sameToken, if_pos ⟨sameKey, listed⟩, if_pos held]

theorem ofToken_decodeSound : (ofToken token key claims).DecodeSound where
  signature := by
    intro now text call returned decoded
    obtain ⟨sameToken, sameKey, listed, _, _⟩ :=
      (ofToken_decode_eq_ok_iff token key claims now text call returned).mp decoded
    exact ⟨"HS256", listed, rfl, sameToken, sameKey⟩
  checks := by
    intro now text call returned decoded
    obtain ⟨_, _, _, held, rfl⟩ :=
      (ofToken_decode_eq_ok_iff token key claims now text call returned).mp decoded
    exact held
  samePayload := by
    intro now text call returned decoded
    obtain ⟨rfl, _, _, _, rfl⟩ :=
      (ofToken_decode_eq_ok_iff token key claims now text call returned).mp decoded
    simp only [ofToken, if_true]

theorem ofToken_roundTrip (nonempty : token.toList ≠ [])
    (solid : ∀ c ∈ token.toList, Text.isSpace c = false) :
    (ofToken token key claims).RoundTrip claims key where
  nonempty := nonempty
  solid := solid
  unverified := by simp only [ofToken, if_true]
  verified := by
    intro now call sameKey algorithms
    constructor
    · rintro ⟨returned, decoded⟩
      obtain ⟨_, _, _, held, _⟩ :=
        (ofToken_decode_eq_ok_iff token key claims now token call returned).mp decoded
      exact held
    · intro held
      refine ⟨claims, ?_⟩
      apply (ofToken_decode_eq_ok_iff token key claims now token call claims).mpr
      refine ⟨rfl, sameKey, ?_, held, rfl⟩
      rw [algorithms]
      exact List.mem_singleton.mpr rfl
  dates := by intro date; rfl

end PyJWT

inductive BotXAuthVersion where
  | v1
  | v2
  deriving DecidableEq, Repr

/-- The clock and `secrets.token_hex(12)` are arguments: the caller reads them where
`issued_at` and `token_id` are not given. -/
def botxJwtV2Payload (botId : UUID) (botHost : String) (iat : Int) (jti : String) : Claims :=
  [("iss", .str botId.str),
    ("aud", .str botHost),
    ("exp", .int (iat + 60)),
    ("nbf", .int iat),
    ("jti", .str jti),
    ("iat", .int iat),
    ("version", .int 2)]

def buildBotxJwtV2 (jwt : PyJWT) (botId : UUID) (botHost secretKey : String) (time : Int)
    (tokenHex : String) (issuedAt : Option Int) (tokenId : Option String) : String :=
  let iat := issuedAt.getD time
  -- An empty `token_id` is replaced as well.
  let jti := if tokenId.getD "" = "" then tokenHex else tokenId.getD ""
  jwt.encode (botxJwtV2Payload botId botHost iat jti) secretKey "HS256"

end Pybotx
