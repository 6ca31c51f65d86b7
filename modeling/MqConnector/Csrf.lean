/-
This file models the CSRF gate of the authenticated routes (`server/middleware_csrf.go`), which sits
behind `RequireSession`, and asks whether it exempts the requests that an API token authenticates.

The two middlewares read the `Authorization` header each in its own way. The gate looks for `Bearer ` in
exactly these letters, whatever follows. `RequireSession` takes the scheme in any letter case and looks
the token up, and goes on to the session cookie where there is none.
-/

import MqConnector.Session

namespace MqConnector

/-- What `requireCSRF` reads of a request, with what `RequireSession` read of it. -/
structure GatedRequest where
  method : String
  credentials : Credentials
  csrfCookie : Option String := none
  csrfHeader : String := ""

namespace GatedRequest

section Gate

variable (request : GatedRequest)

def isReadOnly : Bool :=
  ["GET", "HEAD", "OPTIONS"].contains request.method

def hasBearerPrefix : Bool :=
  "Bearer ".toList.isPrefixOf request.credentials.authorization.toList

/-- `requireCSRF`; an error is answered with status 403. -/
def requireCSRF : Except String Unit :=
  if request.isReadOnly then .ok ()
  else if request.hasBearerPrefix then .ok ()
  else
    match request.csrfCookie with
    | none => .error "missing CSRF cookie; re-authenticate"
    | some cookie =>
      if cookie = "" then .error "missing CSRF cookie; re-authenticate"
      else if request.csrfHeader = "" then .error "missing X-CSRF-Token header"
      else if cookie ≠ request.csrfHeader then .error "CSRF token mismatch"
      else .ok ()

/-- The header carries the token of the cookie. -/
def Paired : Prop :=
  request.csrfHeader ≠ "" ∧ request.csrfCookie = some request.csrfHeader

/-- The requests that the check passes. -/
theorem requireCSRF_eq_ok_iff : request.requireCSRF = .ok () ↔
    request.isReadOnly = true ∨ request.hasBearerPrefix = true ∨ request.Paired := by
  unfold requireCSRF Paired
  split
  · rename_i readOnly
    exact iff_of_true rfl (.inl readOnly)
  · rename_i changes
    split
    · rename_i exempt
      exact iff_of_true rfl (.inr (.inl exempt))
    · rename_i bare
      rw [or_iff_right changes, or_iff_right bare]
      cases request.csrfCookie with
      | none => simp
      | some cookie =>
        dsimp only
        split
        · rename_i empty
          refine iff_of_false (fun done => by cases done) fun paired => paired.1 ?_
          rw [← Option.some.inj paired.2, empty]
        · split
          · rename_i missing
            simp [missing]
          · rename_i present
            split
            · rename_i differs
              simp [differs]
            · rename_i same
              simp [not_not.mp same, present]

end Gate

/-! ### The exemption -/

section Exemption

variable (service : AuthService) (fails : Memberships.LookupStatement → Bool) (now : Int)
  (tables : AuthTables) (request : GatedRequest)

/-- `RequireSession` takes its first branch. -/
def TokenAuthenticated : Prop :=
  (service.bearer fails now tables request.credentials).isSome = true

/-- A state-changing request passes without the pair exactly if a token authenticated it. -/
def ExemptionMatches : Prop :=
  request.isReadOnly = false → ¬ request.Paired →
    (request.requireCSRF = .ok () ↔ request.TokenAuthenticated service fails now tables)

/-- The letters of the header are `bearer ` in any case and then, between blanks, a secret with the prefix of the
tokens whose hash the table has as an active one. -/
def BearsToken : Prop :=
  ∃ scheme rest, request.credentials.authorization.toList = scheme ++ rest ∧
    scheme.map Char.toLower = "bearer ".toList ∧ "mqct_".toList <+: trimSpace rest ∧ fails .tokenLookup = false ∧
    ∃ token, APIToken.lookup tables.tokens now (service.hashSecret (String.ofList (trimSpace rest))) = some token

theorem extractBearerToken_eq {credentials : Credentials} {scheme rest : List Char}
    (shape : credentials.authorization.toList = scheme ++ rest) (bearer : scheme.map Char.toLower = "bearer ".toList)
    (marked : "mqct_".toList <+: trimSpace rest) :
    credentials.extractBearerToken = String.ofList (trimSpace rest) := by
  have seven : scheme.length = 7 := by
    rw [← List.length_map Char.toLower, bearer]
    rfl
  have more : rest ≠ [] := by
    rintro rfl
    exact absurd (List.prefix_nil.mp marked) (by decide)
  have long : 7 < scheme.length + rest.length := by
    have positive := List.length_pos_iff.mpr more
    omega
  rw [Credentials.extractBearerToken]
  dsimp only
  rw [shape, List.take_left' seven, List.drop_left' seven, bearer, List.isPrefixOf_iff_prefix.mpr marked, if_pos rfl,
    if_neg]
  simpa using long

theorem exists_of_extractBearerToken {credentials : Credentials} (secret : credentials.extractBearerToken ≠ "") :
    ∃ scheme rest, credentials.authorization.toList = scheme ++ rest ∧
      scheme.map Char.toLower = "bearer ".toList ∧ "mqct_".toList <+: trimSpace rest := by
  rw [Credentials.extractBearerToken] at secret
  dsimp only at secret
  split at secret
  case isTrue => exact absurd rfl secret
  case isFalse scheme =>
    split at secret
    case isFalse => exact absurd rfl secret
    case isTrue marked =>
      refine ⟨_, _, (List.take_append_drop 7 _).symm, ?_, List.isPrefixOf_iff_prefix.mp marked⟩
      simp only [Bool.or_eq_true, bne_iff_ne, ne_eq, not_or, not_not] at scheme
      exact scheme.2

/-- A request is authenticated by a token exactly if its header bears one that the table accepts. -/
theorem tokenAuthenticated_iff : request.TokenAuthenticated service fails now tables ↔
    request.BearsToken service fails now tables := by
  rw [TokenAuthenticated, AuthService.bearer, Option.isSome_iff_exists]
  constructor
  · rintro ⟨token, found⟩
    obtain ⟨tried, found⟩ := Option.ite_none_left_eq_some.mp found
    simp only [Bool.or_eq_true, beq_iff_eq, not_or, Bool.not_eq_true] at tried
    obtain ⟨scheme, rest, shape, bearer, marked⟩ := exists_of_extractBearerToken tried.1
    rw [extractBearerToken_eq shape bearer marked] at found
    exact ⟨scheme, rest, shape, bearer, marked, tried.2, token, found⟩
  · rintro ⟨scheme, rest, shape, bearer, marked, answers, token, found⟩
    refine ⟨token, ?_⟩
    have secret : String.ofList (trimSpace rest) ≠ "" := by
      intro empty
      rw [String.ofList_eq_empty_iff.mp empty] at marked
      exact absurd (List.prefix_nil.mp marked) (by decide)
    rw [extractBearerToken_eq shape bearer marked, if_neg]
    · exact found
    · simp [secret, answers]

/-- The exemption matches the credential exactly if the pair is not needed, or a header that begins with
`Bearer ` bears an accepted token and no other header does. -/
theorem exemptionMatches_iff :
    request.ExemptionMatches service fails now tables ↔
      request.isReadOnly = true ∨ request.Paired ∨
      (request.hasBearerPrefix = true ∧ request.BearsToken service fails now tables) ∨
      (request.hasBearerPrefix = false ∧ ¬ request.BearsToken service fails now tables) := by
  unfold ExemptionMatches
  rw [requireCSRF_eq_ok_iff, tokenAuthenticated_iff]
  cases request.isReadOnly with
  | true => simp
  | false =>
    by_cases paired : request.Paired
    · simp [paired]
    · cases request.hasBearerPrefix with
      | true => simp [paired]
      | false => simp [paired]

end Exemption

def oneToken : AuthTables :=
  { AuthService.oneAdmin with
    tokens := [⟨"token", defaultTenantID, "admin", "ci", "mqct_1", .admin, none, none⟩] }

/-- The exemption matches the credential of every request. -/
def ExemptionsMatch : Prop :=
  ∀ (service : AuthService) (fails : Memberships.LookupStatement → Bool) (now : Int) (tables : AuthTables)
    (request : GatedRequest), request.ExemptionMatches service fails now tables

/-- A valid token after `bearer` in small letters is refused. -/
theorem small_bearer_refused : ¬ ExemptionsMatch := by
  intro all
  let request : GatedRequest := { method := "POST", credentials := { authorization := "bearer mqct_1" } }
  have accepted : request.TokenAuthenticated AuthService.plainService (fun _ => false) 0 oneToken := by
    rw [TokenAuthenticated]
    decide
  have unpaired : ¬ request.Paired := fun paired => paired.1 rfl
  have passed := (all AuthService.plainService (fun _ => false) 0 oneToken request (by decide) unpaired).mpr accepted
  have refused : request.requireCSRF = .error "missing CSRF cookie; re-authenticate" := by decide
  rw [refused] at passed
  cases passed

end GatedRequest

end MqConnector
