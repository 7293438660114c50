/-
Which exceptions leave `verify_request`.

Its documentation names `UnverifiedRequestError` for every failure of a request that has
headers.  Each route is compared with the exact condition under which that is so.
-/

import Pybotx.Bot.Verification

set_option autoImplicit false

namespace Pybotx

def Documented {α : Type} : Result α → Prop
  | .ok _ => True
  | .error (.unverifiedRequest _) => True
  | .error _ => False

/-- A non-empty header that consists of blanks has no token. -/
def HasToken (header : String) : Prop :=
  ∃ c ∈ header.toList, Text.isSpace c = false

def IssuerKnown (claims : Claims) (credentials : List BotAccountWithSecret) : Prop :=
  ∀ issuer botId, Dict.get "iss" claims = some (.str issuer) → UUID.parse issuer = some botId →
    ∃ account ∈ credentials, account.id = botId

def IssuerComparable (claims : Claims) (trustedIssuers : Option (List String)) : Prop :=
  ∀ issuer, Dict.get "iss" claims = some issuer →
    issuer.hashable = true ∨ trustedIssuers = none ∨ trustedIssuers = some []

/-- The element of a one-element audience is an identifier, and if it leads to an account
under which the token is decoded, the issuer can be compared. -/
def AudienceReadable (jwt : PyJWT) (now : Int) (token : String) (claims : Claims)
    (credentials : List BotAccountWithSecret) (trustedIssuers : Option (List String)) : Prop :=
  ∀ element, Dict.get "aud" claims = some (.arr [element]) →
    ∃ text botId, element = .str text ∧ UUID.parse text = some botId ∧
      ∀ account verified, firstAccount botId credentials = some account →
        jwt.decode now token (decodeCallV1 account account.hostName) = .ok verified →
        IssuerComparable claims trustedIssuers

structure StaysInside (jwt : PyJWT) (now : Int) (headers : List (String × String))
    (credentials : List BotAccountWithSecret) (trustedIssuers : Option (List String)) :
    Prop where
  token : ∀ header, Dict.get "authorization" headers = some header → header ≠ "" →
    HasToken header
  v2 : ∀ token claims, TokenRead jwt headers token claims → isV2Payload claims = true →
    IssuerKnown claims credentials
  v1 : ∀ token claims, TokenRead jwt headers token claims → isV2Payload claims = false →
    AudienceReadable jwt now token claims credentials trustedIssuers

section

variable {claims : Claims} {credentials : List BotAccountWithSecret}

theorem issuerKnown_of_unread
    (unread : ∀ issuer botId, Dict.get "iss" claims = some (.str issuer) →
      UUID.parse issuer ≠ some botId) : IssuerKnown claims credentials := by
  intro issuer botId given parsed
  exact absurd parsed (unread issuer botId given)

variable {issuer : String} {botId : UUID} (given : Dict.get "iss" claims = some (.str issuer))
  (parsed : UUID.parse issuer = some botId)

include given parsed

theorem issuerKnown_iff_of_read :
    IssuerKnown claims credentials ↔ ∃ account, firstAccount botId credentials = some account := by
  constructor
  · intro known
    obtain ⟨account, member, same⟩ := known issuer botId given parsed
    cases found : firstAccount botId credentials with
    | none =>
        have unknown := (firstAccount_eq_none_iff botId credentials).mp found
        exact absurd same (unknown account member)
    | some first => exact ⟨first, rfl⟩
  · intro known other otherId otherGiven otherParsed
    obtain ⟨account, found⟩ := known
    rw [given] at otherGiven
    cases otherGiven
    rw [parsed] at otherParsed
    cases otherParsed
    exact ⟨account, List.mem_of_find?_eq_some found,
      firstAccount_id botId credentials account found⟩

theorem verifyRequestV2_documented_of_account (jwt : PyJWT) (now : Int) (token : String)
    {account : BotAccountWithSecret} (found : firstAccount botId credentials = some account) :
    Documented (verifyRequestV2 jwt now token claims credentials) := by
  have lookup := (getBotAccount_eq_ok_iff botId credentials account).mpr found
  unfold verifyRequestV2
  simp only [given, parsed, lookup, bind, Except.bind, BotAccountWithSecret.host_eq]
  split
  · split
    · trivial
    · split
      · trivial
      · split
        · trivial
        · trivial
  · trivial

end

theorem verifyRequestV2_documented_iff (jwt : PyJWT) (now : Int) (token : String)
    (claims : Claims) (credentials : List BotAccountWithSecret) :
    Documented (verifyRequestV2 jwt now token claims credentials) ↔
      IssuerKnown claims credentials := by
  cases given : Dict.get "iss" claims with
  | none =>
      have refused : Documented (verifyRequestV2 jwt now token claims credentials) := by
        simp [verifyRequestV2, given, Documented]
      exact iff_of_true refused (issuerKnown_of_unread (by simp [given]))
  | some claim =>
      cases claim with
      | str issuer =>
          cases parsed : UUID.parse issuer with
          | none =>
              have refused : Documented (verifyRequestV2 jwt now token claims credentials) := by
                simp [verifyRequestV2, given, parsed, Documented]
              refine iff_of_true refused (issuerKnown_of_unread ?_)
              intro other botId same
              rw [given] at same
              cases same
              simp [parsed]
          | some botId =>
              rw [issuerKnown_iff_of_read given parsed]
              cases found : firstAccount botId credentials with
              | none =>
                  have escapes :
                      ¬ Documented (verifyRequestV2 jwt now token claims credentials) := by
                    simp [verifyRequestV2, given, parsed, getBotAccount_eq, found, bind,
                      Except.bind, Documented]
                  exact iff_of_false escapes (by simp)
              | some account =>
                  exact iff_of_true
                    (verifyRequestV2_documented_of_account given parsed jwt now token found)
                    ⟨account, rfl⟩
      | _ =>
          have refused : Documented (verifyRequestV2 jwt now token claims credentials) := by
            simp [verifyRequestV2, given, Documented]
          exact iff_of_true refused (issuerKnown_of_unread (by simp [given]))

theorem checkTrusted_documented_iff (issuer : Json) (trustedIssuers : Option (List String))
    (botAccount : BotAccountWithSecret) :
    Documented (checkTrusted issuer trustedIssuers botAccount) ↔
      issuer.hashable = true ∨ trustedIssuers = none ∨ trustedIssuers = some [] := by
  unfold checkTrusted
  split
  · simp [Documented]
  · simp [Documented]
  · rename_i trusted nonempty
    split
    · rename_i hashable
      constructor
      · intro _
        exact Or.inl hashable
      · intro _
        split
        · trivial
        · trivial
    · rename_i unhashable
      constructor
      · intro impossible
        cases impossible
      · rintro (hashable | absent | empty)
        · exact absurd hashable unhashable
        · cases absent
        · cases empty
          exact absurd rfl nonempty

theorem checkIssuerV1_documented_iff (claims : Claims) (host : String)
    (trustedIssuers : Option (List String)) (botAccount : BotAccountWithSecret) :
    Documented (checkIssuerV1 claims host trustedIssuers botAccount) ↔
      IssuerComparable claims trustedIssuers := by
  unfold checkIssuerV1 IssuerComparable
  split
  · rename_i missing
    simp [Documented, missing]
  · rename_i null
    simp [Documented, null, Json.hashable]
  · rename_i issuer notNull given
    have only : (∀ other, Dict.get "iss" claims = some other →
        other.hashable = true ∨ trustedIssuers = none ∨ trustedIssuers = some []) ↔
        issuer.hashable = true ∨ trustedIssuers = none ∨ trustedIssuers = some [] := by
      simp [given]
    rw [only]
    split
    · rename_i sameHost
      rw [(Json.equalsStr_iff host issuer).mp sameHost]
      simp [Documented, Json.hashable]
    · exact checkTrusted_documented_iff issuer trustedIssuers botAccount

/-- `UUID(element)` succeeds on texts of an identifier only, and fails undocumented. -/
theorem uuidOfClaim_cases (element : Json) :
    (∃ text botId, element = .str text ∧ UUID.parse text = some botId ∧
      uuidOfClaim element = .ok botId) ∨
    ((∀ text botId, element = .str text → UUID.parse text ≠ some botId) ∧
      ∃ exc, uuidOfClaim element = .error exc ∧ ∀ message, exc ≠ .unverifiedRequest message) := by
  cases element with
  | str text =>
      cases parsed : UUID.parse text with
      | some botId => exact Or.inl ⟨text, botId, rfl, parsed, by simp [uuidOfClaim, parsed]⟩
      | none =>
          right
          refine ⟨?_, .valueError "badly formed hexadecimal UUID string",
            by simp [uuidOfClaim, parsed], by simp⟩
          intro other botId same
          cases same
          rw [parsed]
          simp
  | null => exact Or.inr ⟨by simp, .typeError, rfl, by simp⟩
  | _ => exact Or.inr ⟨by simp, .attributeError, rfl, by simp⟩

section

variable {jwt : PyJWT} {now : Int} {token : String} {claims : Claims}
  {credentials : List BotAccountWithSecret} {trustedIssuers : Option (List String)}
  {element : Json} (given : Dict.get "aud" claims = some (.arr [element]))

include given

theorem not_audienceReadable_of_unread
    (unreadable : ∀ text botId, element = .str text → UUID.parse text ≠ some botId) :
    ¬ AudienceReadable jwt now token claims credentials trustedIssuers := by
  intro readable
  obtain ⟨text, botId, sameText, parsed, _⟩ := readable element given
  exact unreadable text botId sameText parsed

theorem audienceReadable_iff_of_read {text : String} {botId : UUID} (isText : element = .str text)
    (parsed : UUID.parse text = some botId) :
    AudienceReadable jwt now token claims credentials trustedIssuers ↔
      ∀ account verified, firstAccount botId credentials = some account →
        jwt.decode now token (decodeCallV1 account account.hostName) = .ok verified →
        IssuerComparable claims trustedIssuers := by
  constructor
  · intro readable
    obtain ⟨other, otherId, otherText, otherParsed, comparable⟩ := readable element given
    rw [isText] at otherText
    cases otherText
    rw [parsed] at otherParsed
    cases otherParsed
    exact comparable
  · intro comparable other otherGiven
    rw [given] at otherGiven
    cases otherGiven
    exact ⟨text, botId, isText, parsed, comparable⟩

/-- The route from a readable audience on: only the comparison of the issuer is not translated. -/
theorem verifyRequestV1_documented_of_read {botId : UUID}
    (read : uuidOfClaim element = .ok botId) :
    Documented (verifyRequestV1 jwt now token claims credentials trustedIssuers) ↔
      ∀ account verified, firstAccount botId credentials = some account →
        jwt.decode now token (decodeCallV1 account account.hostName) = .ok verified →
        IssuerComparable claims trustedIssuers := by
  unfold verifyRequestV1
  simp only [given, read, bind, Except.bind, getBotAccount_eq]
  cases found : firstAccount botId credentials with
  | none => simp [Documented]
  | some account =>
      simp only [BotAccountWithSecret.host_eq, Option.some.injEq]
      cases decoded : jwt.decode now token (decodeCallV1 account account.hostName) with
      | error failure =>
          refine iff_of_true trivial ?_
          intro other verified same otherDecoded
          cases same
          rw [decoded] at otherDecoded
          cases otherDecoded
      | ok verified =>
          simp only [checkIssuerV1_documented_iff]
          constructor
          · intro holds other _ sameAccount _
            exact holds
          · intro holds
            exact holds account verified rfl decoded

end

theorem verifyRequestV1_documented_iff (jwt : PyJWT) (now : Int) (token : String)
    (claims : Claims) (credentials : List BotAccountWithSecret)
    (trustedIssuers : Option (List String)) :
    Documented (verifyRequestV1 jwt now token claims credentials trustedIssuers) ↔
      AudienceReadable jwt now token claims credentials trustedIssuers := by
  by_cases single : ∃ element, Dict.get "aud" claims = some (.arr [element])
  · obtain ⟨element, given⟩ := single
    rcases uuidOfClaim_cases element with ⟨text, botId, isText, parsed, read⟩ |
      ⟨unreadable, exc, failed, undocumented⟩
    · rw [verifyRequestV1_documented_of_read given read,
        audienceReadable_iff_of_read given isText parsed]
    · refine iff_of_false ?_ (not_audienceReadable_of_unread given unreadable)
      unfold verifyRequestV1
      simp only [given, failed, bind, Except.bind]
      cases exc with
      | unverifiedRequest message => exact absurd rfl (undocumented message)
      | _ => exact not_false
  · have several (element : Json) : Dict.get "aud" claims ≠ some (.arr [element]) := by
      intro given
      exact single ⟨element, given⟩
    have refused :
        Documented (verifyRequestV1 jwt now token claims credentials trustedIssuers) := by
      unfold verifyRequestV1
      split
      · rename_i element given
        exact absurd given (several element)
      · trivial
    refine iff_of_true refused ?_
    intro element given
    exact absurd given (several element)

/-! ### The whole verification -/

theorem hasToken_iff (header : String) :
    HasToken header ↔ ∃ token, (Text.split header).getLast? = some token := by
  rw [← Option.isSome_iff_exists, List.getLast?_isSome, Text.split, ne_eq, List.map_eq_nil_iff,
    Text.words_eq_nil_iff]
  unfold HasToken
  push Not
  simp

section

variable {jwt : PyJWT} {headers : List (String × String)}

theorem TokenRead.unique {token other : String} {claims otherClaims : Claims}
    (read : TokenRead jwt headers token claims)
    (otherRead : TokenRead jwt headers other otherClaims) :
    other = token ∧ otherClaims = claims := by
  obtain ⟨header, given, last, decoded⟩ := read
  obtain ⟨otherHeader, otherGiven, otherLast, otherDecoded⟩ := otherRead
  rw [given] at otherGiven
  cases otherGiven
  rw [last] at otherLast
  cases otherLast
  rw [decoded] at otherDecoded
  cases otherDecoded
  exact ⟨rfl, rfl⟩

theorem TokenRead.hasToken {token header : String} {claims : Claims}
    (read : TokenRead jwt headers token claims)
    (given : Dict.get "authorization" headers = some header) : HasToken header := by
  obtain ⟨other, otherGiven, last, _⟩ := read
  rw [given] at otherGiven
  cases otherGiven
  exact (hasToken_iff header).mpr ⟨token, last⟩

variable (now : Int) (credentials : List BotAccountWithSecret)
  (trustedIssuers : Option (List String))

theorem verifyRequest_of_tokenRead {token : String} {claims : Claims}
    (read : TokenRead jwt headers token claims) :
    verifyRequest jwt now (some headers) credentials trustedIssuers =
      if isV2Payload claims then verifyRequestV2 jwt now token claims credentials
      else verifyRequestV1 jwt now token claims credentials trustedIssuers := by
  obtain ⟨header, given, last, decoded⟩ := read
  have nonempty : header ≠ "" := by
    rintro rfl
    cases last
  simp only [verifyRequest, given, if_neg nonempty, last, decoded]

/-- A token that cannot be read is refused; what escapes is a header without a token. -/
theorem verifyRequest_documented_of_unread
    (unread : ∀ token claims, ¬ TokenRead jwt headers token claims) :
    Documented (verifyRequest jwt now (some headers) credentials trustedIssuers) ↔
      ∀ header, Dict.get "authorization" headers = some header → header ≠ "" →
        HasToken header := by
  cases given : Dict.get "authorization" headers with
  | none => simp [verifyRequest, given, Documented]
  | some header =>
      simp only [verifyRequest, given, Option.some.injEq, forall_eq']
      by_cases empty : header = ""
      · simp [empty, Documented]
      · simp only [if_neg empty, hasToken_iff]
        cases last : (Text.split header).getLast? with
        | none => simp [Documented, empty]
        | some token =>
            cases decoded : jwt.decodeUnverified token decodeAlgorithms with
            | error failure => simp [decoded, Documented]
            | ok claims => exact absurd ⟨header, given, last, decoded⟩ (unread token claims)

end

theorem verifyRequest_documented_iff (jwt : PyJWT) (now : Int)
    (headers : List (String × String)) (credentials : List BotAccountWithSecret)
    (trustedIssuers : Option (List String)) :
    Documented (verifyRequest jwt now (some headers) credentials trustedIssuers) ↔
      StaysInside jwt now headers credentials trustedIssuers := by
  by_cases read : ∃ token claims, TokenRead jwt headers token claims
  · obtain ⟨token, claims, read⟩ := read
    rw [verifyRequest_of_tokenRead now credentials trustedIssuers read]
    have hasToken : ∀ header, Dict.get "authorization" headers = some header → header ≠ "" →
        HasToken header := fun header given _ => read.hasToken given
    by_cases version : isV2Payload claims = true
    · rw [if_pos version, verifyRequestV2_documented_iff]
      refine ⟨fun known => ⟨hasToken, ?_, ?_⟩, fun inside => inside.v2 token claims read version⟩
      · intro other otherClaims otherRead _
        rw [(read.unique otherRead).2]
        exact known
      · intro other otherClaims otherRead otherVersion
        rw [(read.unique otherRead).2, version] at otherVersion
        cases otherVersion
    · rw [if_neg version, verifyRequestV1_documented_iff]
      refine ⟨fun readable => ⟨hasToken, ?_, ?_⟩, fun inside =>
        inside.v1 token claims read (by simpa using version)⟩
      · intro other otherClaims otherRead otherVersion
        rw [(read.unique otherRead).2] at otherVersion
        exact absurd otherVersion version
      · intro other otherClaims otherRead _
        obtain ⟨rfl, rfl⟩ := read.unique otherRead
        exact readable
  · have unread : ∀ token claims, ¬ TokenRead jwt headers token claims :=
      fun token claims found => read ⟨token, claims, found⟩
    rw [verifyRequest_documented_of_unread now credentials trustedIssuers unread]
    constructor
    · intro hasToken
      exact ⟨hasToken, fun token claims found => absurd found (unread token claims),
        fun token claims found => absurd found (unread token claims)⟩
    · intro inside
      exact inside.token

end Pybotx
