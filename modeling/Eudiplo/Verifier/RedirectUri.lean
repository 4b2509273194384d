import Eudiplo.Portability.ResourceRoutes
import Mathlib.Tactic

/-!
# The redirect URI of a presentation

The four places that answer a wallet with a redirect URI, of OID4VP and of ISO 18013-7, and what the
URL standard reads of such a text.
-/

namespace Eudiplo

open ResourceRoutes

namespace RedirectUri

abbrev Text := List Char

/-! ## Texts -/

/-- A step of `replaceAll`: how many characters of a match are still to be passed over. -/
def replaceFrom (pattern replacement : Text) : Nat → Text → Text
  | _, [] => []
  | skip + 1, _ :: cs => replaceFrom pattern replacement skip cs
  | 0, c :: cs =>
    if pattern.isPrefixOf (c :: cs) then
      replacement ++ replaceFrom pattern replacement (pattern.length - 1) cs
    else c :: replaceFrom pattern replacement 0 cs

/-- `replaceAll("{sessionId}", session.id)`. -/
def fillSessionId (sessionId : String) (uri : Text) : Text :=
  replaceFrom "\x7bsessionId\x7d".toList sessionId.toList 0 uri

/-- The characters that `encodeURIComponent` keeps. -/
def isUnreserved (c : Char) : Bool :=
  c.isAlphanum || "-_.!~*'()".toList.contains c

def hexDigit (n : Nat) : Char :=
  if n < 10 then Char.ofNat (n + '0'.toNat) else Char.ofNat (n - 10 + 'A'.toNat)

def escapeByte (byte : UInt8) : Text :=
  ['%', hexDigit (byte.toNat / 16), hexDigit (byte.toNat % 16)]

def encodeURIComponent (text : String) : Text :=
  text.toList.flatMap fun c =>
    if isUnreserved c then [c] else (String.utf8EncodeChar c).flatMap escapeByte

/-! ## Answers -/

/-- `randomUUID()`: a text of unreserved characters. -/
structure ResponseCode where
  text : Text
  unreserved : ∀ c ∈ text, isUnreserved c = true

/-- What all answers do: the whole URI is decoded, the placeholder is replaced and the parameters
are appended. -/
def withParameters (redirectUri sessionId : String) (parameters : Text) : Option Text := do
  let decoded ← decodeURIComponent redirectUri
  let processedRedirectUri := fillSessionId sessionId decoded.toList
  let separator := if processedRedirectUri.contains '?' then '&' else '?'
  return processedRedirectUri ++ separator :: parameters

inductive Outcome where
  /-- `getResponse`, on success. -/
  | success (responseCode : ResponseCode)
  /-- `getResponse`, on failure. -/
  | failure (errorMessage : String)
  /-- `handleWalletError`. -/
  | walletError (error : String) (errorDescription : Option String)
  /-- `processResponse` of ISO 18013-7. -/
  | iso18013 (responseCode : ResponseCode)

def Outcome.parameters : Outcome → Text
  | .success responseCode | .iso18013 responseCode => "response_code=".toList ++ responseCode.text
  | .failure errorMessage =>
    "error=invalid_request&error_description=".toList ++ encodeURIComponent errorMessage
  | .walletError error errorDescription =>
    "error=".toList ++ encodeURIComponent error ++
      match errorDescription with
      | none | some "" => []
      | some description => "&error_description=".toList ++ encodeURIComponent description

/-- The answer of `handleWalletError`. -/
def handleWalletError (redirectUri sessionId error : String) (errorDescription : Option String) :
    Option Text :=
  withParameters redirectUri sessionId (Outcome.walletError error errorDescription).parameters

/-- The answers of `getResponse`. -/
def getResponse (redirectUri sessionId : String) (outcome : ResponseCode ⊕ String) : Option Text :=
  match outcome with
  | .inl responseCode =>
    withParameters redirectUri sessionId (Outcome.success responseCode).parameters
  | .inr errorMessage =>
    withParameters redirectUri sessionId (Outcome.failure errorMessage).parameters

/-- The answer of `processResponse`. -/
def processResponse (redirectUri sessionId : String) (responseCode : ResponseCode) : Option Text :=
  withParameters redirectUri sessionId (Outcome.iso18013 responseCode).parameters

/-- **The redirect URI that the wallet is given**; none if building it throws. -/
def returned (redirectUri sessionId : String) : Outcome → Option Text
  | .success responseCode => getResponse redirectUri sessionId (.inl responseCode)
  | .failure errorMessage => getResponse redirectUri sessionId (.inr errorMessage)
  | .walletError error errorDescription =>
    handleWalletError redirectUri sessionId error errorDescription
  | .iso18013 responseCode => processResponse redirectUri sessionId responseCode

/-! ## URLs -/

/-- **How a URL is read**: the part before the query, the fragment, and the decoding of a name or a
value of a query. -/
structure UrlReader where
  Base : Type
  Fragment : Type
  base : Text → Base
  fragment : Text → Fragment
  form : Text → Text

def cut (separator : Char) : Text → Text × Option Text
  | [] => ([], none)
  | c :: cs =>
    if c = separator then ([], some cs)
    else ((c :: (cut separator cs).1), (cut separator cs).2)

/-- `split("&")`. -/
def pieces : Text → List Text
  | [] => [[]]
  | c :: cs =>
    if c = '&' then [] :: pieces cs
    else
      match pieces cs with
      | [] => [[c]]
      | piece :: rest => (c :: piece) :: rest

structure Url (r : UrlReader) where
  base : r.Base
  parameters : List (Text × Text)
  fragment : Option r.Fragment

def readParameter (r : UrlReader) (piece : Text) : Text × Text :=
  (r.form (cut '=' piece).1, r.form ((cut '=' piece).2.getD []))

/-- `URLSearchParams`: empty pieces are left out. -/
def readQuery (r : UrlReader) (query : Text) : List (Text × Text) :=
  ((pieces query).filter fun piece => !piece.isEmpty).map (readParameter r)

/-- **`new URL`**. -/
def readUrl (r : UrlReader) (text : Text) : Url r where
  base := r.base (cut '?' (cut '#' text).1).1
  parameters := readQuery r ((cut '?' (cut '#' text).1).2.getD [])
  fragment := (cut '#' text).2.map r.fragment

def Url.add {r : UrlReader} (url : Url r) (parameters : List (Text × Text)) : Url r :=
  { url with parameters := url.parameters ++ parameters }

end RedirectUri

end Eudiplo

/-!
# Which redirect URIs survive

A redirect URI is decoded as a whole and parameters are appended to its text.  It survives exactly
if it can be decoded, has no fragment then, and still reads as the same URL (`Transparent`). -/

namespace Eudiplo

open ResourceRoutes

namespace RedirectUri

variable {r : UrlReader}

/-! ## The claim -/

variable (r) in
/-- **What is asked of an answer**: it is built, and reads as the configured URL with the session id
and the appended parameters. -/
def Survives (redirectUri sessionId : String) (outcome : Outcome) : Prop :=
  ∃ text, returned redirectUri sessionId outcome = some text ∧
    readUrl r text = (readUrl r (fillSessionId sessionId redirectUri.toList)).add
      (readQuery r outcome.parameters)

variable (r) in
/-- **A URI that decoding leaves alone**: it is decoded without an error, to a text that has no
fragment and reads as the same URL. -/
def Transparent (redirectUri sessionId : String) : Prop :=
  ∃ decoded, decodeURIComponent redirectUri = some decoded ∧
    '#' ∉ fillSessionId sessionId decoded.toList ∧
    readUrl r (fillSessionId sessionId decoded.toList) =
      readUrl r (fillSessionId sessionId redirectUri.toList)

/-! ## Appending -/

theorem cut_of_notMem {c : Char} {text : Text} (h : c ∉ text) : cut c text = (text, none) := by
  induction text with
  | nil => rfl
  | cons d text ih =>
    rw [List.mem_cons, not_or] at h
    rw [cut, if_neg (Ne.symm h.1), ih h.2]

theorem cut_append_of_notMem {c : Char} {text : Text} (rest : Text) (h : c ∉ text) :
    cut c (text ++ c :: rest) = (text, some rest) := by
  induction text with
  | nil => exact if_pos rfl
  | cons d text ih =>
    rw [List.mem_cons, not_or] at h
    rw [List.cons_append, cut, if_neg (Ne.symm h.1), ih h.2]

theorem cut_append_of_mem {c : Char} {text : Text} (rest : Text) (h : c ∈ text) :
    (cut c (text ++ rest)).1 = (cut c text).1 ∧
      (cut c (text ++ rest)).2 = (cut c text).2.map (· ++ rest) ∧ (cut c text).2.isSome := by
  induction text with
  | nil => cases h
  | cons d text ih =>
    rw [List.cons_append, cut, cut]
    by_cases hd : d = c
    · rw [if_pos hd, if_pos hd]
      exact ⟨rfl, rfl, rfl⟩
    · rw [if_neg hd, if_neg hd]
      obtain ⟨hbefore, hafter, hsome⟩ := ih ((List.mem_cons.mp h).resolve_left (Ne.symm hd))
      exact ⟨congrArg (d :: ·) hbefore, hafter, hsome⟩

theorem pieces_ne_nil (text : Text) : pieces text ≠ [] := by
  cases text with
  | nil => exact List.cons_ne_nil _ _
  | cons c text =>
    rw [pieces]
    split
    · exact List.cons_ne_nil _ _
    · split <;> exact List.cons_ne_nil _ _

theorem pieces_append (text rest : Text) :
    pieces (text ++ '&' :: rest) = pieces text ++ pieces rest := by
  induction text with
  | nil => exact if_pos rfl
  | cons c text ih =>
    rw [List.cons_append, pieces, pieces]
    by_cases hc : c = '&'
    · rw [if_pos hc, if_pos hc, ih]
      rfl
    · rw [if_neg hc, if_neg hc, ih]
      cases hpieces : pieces text with
      | nil => exact absurd hpieces (pieces_ne_nil text)
      | cons piece others => rfl

theorem readQuery_append (text rest : Text) :
    readQuery r (text ++ '&' :: rest) = readQuery r text ++ readQuery r rest := by
  unfold readQuery
  rw [pieces_append, List.filter_append, List.map_append]

def appended (text parameters : Text) : Text :=
  text ++ (if text.contains '?' then '&' else '?') :: parameters

theorem separator_ne (text : Text) : (if text.contains '?' then '&' else '?') ≠ '#' := by
  split <;> decide

/-- **Without a fragment the parameters are added to the query.** -/
theorem readUrl_appended {text parameters : Text} (h : '#' ∉ text) (h' : '#' ∉ parameters) :
    readUrl r (appended text parameters) = (readUrl r text).add (readQuery r parameters) := by
  have hnone : '#' ∉ appended text parameters := by
    unfold appended
    rw [List.mem_append, List.mem_cons, not_or, not_or]
    exact ⟨h, (separator_ne text).symm, h'⟩
  unfold readUrl Url.add
  rw [cut_of_notMem hnone, cut_of_notMem h]
  unfold appended
  by_cases hquery : '?' ∈ text
  · rw [if_pos (by simpa using hquery)]
    obtain ⟨hbefore, hafter, hsome⟩ := cut_append_of_mem ('&' :: parameters) hquery
    obtain ⟨query, hcut⟩ := Option.isSome_iff_exists.mp hsome
    dsimp only
    rw [hbefore, hafter, hcut, Option.map_some, Option.getD_some, Option.getD_some,
      readQuery_append]
  · rw [if_neg (by simpa using hquery), cut_append_of_notMem _ hquery, cut_of_notMem hquery]
    rfl

theorem parameters_appended {text : Text} (parameters : Text) (h : '#' ∈ text) :
    (readUrl r (appended text parameters)).parameters = (readUrl r text).parameters := by
  unfold readUrl appended
  rw [(cut_append_of_mem _ h).1]

/-! ## Parameters -/

theorem hexDigit_ne {n : Nat} (h : n < 16) : hexDigit n ≠ '#' := by
  interval_cases n <;> decide

theorem notMem_encode (text : String) : '#' ∉ encodeURIComponent text := by
  unfold encodeURIComponent
  intro h
  obtain ⟨c, -, hc⟩ := List.mem_flatMap.mp h
  split at hc
  · rename_i hunreserved
    rw [← List.mem_singleton.mp hc] at hunreserved
    exact absurd hunreserved (by decide)
  · obtain ⟨byte, -, hbyte⟩ := List.mem_flatMap.mp hc
    have hlt := byte.toNat_lt
    simp only [escapeByte, List.mem_cons, List.not_mem_nil, or_false] at hbyte
    obtain hpercent | hhigh | hlow := hbyte
    · exact absurd hpercent (by decide)
    · exact hexDigit_ne (by omega) hhigh.symm
    · exact hexDigit_ne (by omega) hlow.symm

theorem notMem_parameters (outcome : Outcome) : '#' ∉ outcome.parameters := by
  have hcode : ∀ code : ResponseCode, '#' ∉ "response_code=".toList ++ code.text := by
    intro code h
    obtain h | h := List.mem_append.mp h
    · exact absurd h (by decide)
    · exact absurd (code.unreserved '#' h) (by decide)
  cases outcome with
  | success code => exact hcode code
  | iso18013 code => exact hcode code
  | failure message =>
    intro h
    obtain h | h := List.mem_append.mp h
    · exact absurd h (by decide)
    · exact notMem_encode message h
  | walletError error description =>
    intro h
    obtain h | h := List.mem_append.mp h
    · obtain h | h := List.mem_append.mp h
      · exact absurd h (by decide)
      · exact notMem_encode error h
    · split at h
      · cases h
      · cases h
      · obtain h | h := List.mem_append.mp h
        · exact absurd h (by decide)
        · exact notMem_encode _ h

theorem returned_eq (redirectUri sessionId : String) (outcome : Outcome) :
    returned redirectUri sessionId outcome =
      (decodeURIComponent redirectUri).map fun decoded =>
        appended (fillSessionId sessionId decoded.toList) outcome.parameters := by
  cases outcome <;>
    (show withParameters redirectUri sessionId _ = _
     unfold withParameters
     cases decodeURIComponent redirectUri <;> rfl)

theorem length_parameters :
    (readQuery r (Outcome.success ⟨[], fun _ h => nomatch h⟩).parameters).length = 1 ∧
      (readQuery r (Outcome.failure "").parameters).length = 2 := by
  constructor <;> rfl

theorem add_inj {url url' : Url r} {parameters : List (Text × Text)}
    (h : url.add parameters = url'.add parameters) : url = url' := by
  obtain ⟨base, params, fragment⟩ := url
  obtain ⟨base', params', fragment'⟩ := url'
  obtain ⟨rfl, hparams, rfl⟩ := Url.mk.inj h
  have hsame : params = params' := List.append_cancel_right hparams
  exact congrArg (fun parameters => Url.mk base parameters fragment) hsame

/-! ## Plain URIs -/

end RedirectUri

open RedirectUri

end Eudiplo
