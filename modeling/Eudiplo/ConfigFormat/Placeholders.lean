import Eudiplo.Shared.Values

/-!
# Placeholders in configuration values

`config-values.ts` of the configuration format: a scanner for `${VAR}` and `${VAR:fallback}`, and
the resolution of the strings of a JSON value against an environment.  A position in the input is
the text from there on; `pending` is what follows the last match up to that position.
-/

namespace Eudiplo

namespace Placeholders

def isVariableChar (c : Char) : Bool :=
  ('A' ≤ c && c ≤ 'Z') || ('0' ≤ c && c ≤ '9') || c == '_'

structure Placeholder where
  matched : List Char
  variableName : List Char
  fallback : Option (List Char)
  deriving DecidableEq

/-- `indexOf("$\x7b")`: the text before the next opener and what follows the opener. -/
def findOpener : List Char → Option (List Char × List Char)
  | '$' :: '\x7b' :: body => some ([], body)
  | [] => none
  | c :: text => (findOpener text).map fun found => (c :: found.1, found.2)

/-- `indexOf("\x7d")`: the text before the next closing brace and what follows it. -/
def findBrace (text : List Char) : Option (List Char × List Char) :=
  match text.dropWhile (· != '\x7d') with
  | [] => none
  | _ :: rest => some (text.takeWhile (· != '\x7d'), rest)

inductive Attempt where
  | found (placeholder : Placeholder) (rest : List Char)
  | failed
  /-- There is no closing brace in the rest of the input. -/
  | unclosed

def attempt (body : List Char) : Attempt :=
  let variableName := body.takeWhile isVariableChar
  if variableName.isEmpty then .failed
  else
    match body.dropWhile isVariableChar with
    | '\x7d' :: rest =>
      .found ⟨'$' :: '\x7b' :: variableName ++ ['\x7d'], variableName, none⟩ rest
    | ':' :: tail =>
      match findBrace tail with
      | none => .unclosed
      | some (fallback, rest) =>
        .found ⟨'$' :: '\x7b' :: variableName ++ ':' :: fallback ++ ['\x7d'], variableName,
          some fallback⟩ rest
    | _ => .failed

theorem findOpener_split {text before body : List Char}
    (h : findOpener text = some (before, body)) : text = before ++ '$' :: '\x7b' :: body := by
  induction text using findOpener.induct generalizing before with
  | case1 body' =>
    rw [findOpener] at h
    obtain ⟨rfl, rfl⟩ := Prod.mk.inj (Option.some.inj h)
    rfl
  | case2 => exact (nomatch h)
  | case3 c text hopener ih =>
    rw [findOpener.eq_3 _ _ hopener] at h
    obtain ⟨⟨before', body'⟩, hfound, heq⟩ := Option.map_eq_some_iff.mp h
    obtain ⟨rfl, rfl⟩ := Prod.mk.inj heq
    exact congrArg (c :: ·) (ih hfound)

theorem findBrace_split {text before rest : List Char}
    (h : findBrace text = some (before, rest)) : text = before ++ '\x7d' :: rest := by
  unfold findBrace at h
  split at h
  · exact (nomatch h)
  next c tail hdrop =>
  obtain ⟨rfl, rfl⟩ := Prod.mk.inj (Option.some.inj h)
  have hbrace : (c != '\x7d') = false := by
    have hhead := List.head?_dropWhile_not (· != '\x7d') text
    rw [hdrop] at hhead
    simpa using hhead
  have hc : c = '\x7d' := by simpa using hbrace
  subst hc
  rw [← hdrop, List.takeWhile_append_dropWhile]

theorem attempt_split {body rest : List Char} {placeholder : Placeholder}
    (h : attempt body = .found placeholder rest) :
    '$' :: '\x7b' :: body = placeholder.matched ++ rest := by
  unfold attempt at h
  dsimp only at h
  split at h
  · exact (nomatch h)
  have hbody := (List.takeWhile_append_dropWhile (p := isVariableChar) (l := body))
  split at h
  · next tail hdrop =>
    obtain ⟨rfl, rfl⟩ := Attempt.found.inj h
    rw [hdrop] at hbody
    exact (congrArg ('$' :: '\x7b' :: ·) hbody.symm).trans (by simp)
  · next tail hdrop =>
    split at h
    · exact (nomatch h)
    next fallback rest' hbrace =>
    obtain ⟨rfl, rfl⟩ := Attempt.found.inj h
    rw [hdrop, findBrace_split hbrace] at hbody
    exact (congrArg ('$' :: '\x7b' :: ·) hbody.symm).trans (by simp)
  · exact (nomatch h)

theorem attempt_length {body rest : List Char} {placeholder : Placeholder}
    (h : attempt body = .found placeholder rest) : rest.length ≤ body.length := by
  unfold attempt at h
  dsimp only at h
  split at h
  · exact (nomatch h)
  have hdropped : (body.dropWhile isVariableChar).length ≤ body.length :=
    (List.dropWhile_suffix _).length_le
  split at h
  · next tail hdrop =>
    obtain ⟨rfl, rfl⟩ := Attempt.found.inj h
    rw [hdrop, List.length_cons] at hdropped
    omega
  · next tail hdrop =>
    split at h
    · exact (nomatch h)
    next fallback rest' hbrace =>
    obtain ⟨rfl, rfl⟩ := Attempt.found.inj h
    rw [hdrop, findBrace_split hbrace] at hdropped
    simp only [List.length_cons, List.length_append] at hdropped
    omega
  · exact (nomatch h)

/-- The loop of `replacePlaceholders`, with what the replacer reports. -/
def replaceFrom {ι : Type} (replace : Placeholder → List Char × List ι)
    (pending input : List Char) : List Char × List ι :=
  match _hopener : findOpener input with
  | none => (pending ++ input, [])
  | some (before, body) =>
    match _hattempt : attempt body with
    | .unclosed => (pending ++ input, [])
    | .failed => replaceFrom replace (pending ++ before ++ ['$', '\x7b']) body
    | .found placeholder rest =>
      let replaced := replace placeholder
      let later := replaceFrom replace [] rest
      (pending ++ before ++ replaced.1 ++ later.1, replaced.2 ++ later.2)
termination_by input.length
decreasing_by
  · rw [findOpener_split _hopener]
    simp
    omega
  · have hlength := attempt_length _hattempt
    rw [findOpener_split _hopener]
    simp
    omega

def replacePlaceholders {ι : Type} (input : List Char)
    (replace : Placeholder → List Char × List ι) : List Char × List ι :=
  replaceFrom replace [] input

/-! ## Resolving a value -/

structure PlaceholderIssue where
  path : String
  variableName : String
  message : String

def unresolvedIssue (path : String) (variableName : List Char) : PlaceholderIssue where
  path := if path = "" then "/" else path
  variableName := String.ofList variableName
  message := "Unresolved placeholder $\x7b" ++ String.ofList variableName ++
    "\x7d: no environment value or default is available"

def environmentValue (env : String → Option String) (variableName : List Char) :
    Option (List Char) :=
  match env (String.ofList variableName) with
  | none => none
  | some value => if value = "" then none else some value.toList

/-- The replacer of `resolveConfigVariables`. -/
def resolvePlaceholder (env : String → Option String) (path : String) (placeholder : Placeholder) :
    List Char × List PlaceholderIssue :=
  match environmentValue env placeholder.variableName, placeholder.fallback with
  | some value, _ => (value, [])
  | none, some fallback => (fallback, [])
  | none, none => (placeholder.matched, [unresolvedIssue path placeholder.variableName])

def memberPath (path key : String) : String :=
  path ++ "/" ++ (key.replace "~" "~0").replace "/" "~1"

mutual

/-- `visit`, of `resolveConfigVariables`. -/
def visit (env : String → Option String) (path : String) : Json → Json × List PlaceholderIssue
  | .str s =>
    let replaced := replacePlaceholders s.toList (resolvePlaceholder env path)
    (.str (String.ofList replaced.1), replaced.2)
  | .arr items =>
    let visited := visitItems env path 0 items
    (.arr visited.1, visited.2)
  | .obj members =>
    let visited := visitMembers env path members
    (.obj visited.1, visited.2)
  | value => (value, [])

def visitItems (env : String → Option String) (path : String) (i : Nat) :
    List Json → List Json × List PlaceholderIssue
  | [] => ([], [])
  | item :: items =>
    let visited := visit env (memberPath path (toString i)) item
    let later := visitItems env path (i + 1) items
    (visited.1 :: later.1, visited.2 ++ later.2)

def visitMembers (env : String → Option String) (path : String) :
    List (String × Json) → List (String × Json) × List PlaceholderIssue
  | [] => ([], [])
  | (key, item) :: members =>
    let visited := visit env (memberPath path key) item
    let later := visitMembers env path members
    ((key, visited.1) :: later.1, visited.2 ++ later.2)

end

/-- **`resolveConfigVariables`**: the value and what is unresolved. -/
def resolveConfigVariables (input : Json) (env : String → Option String) :
    Json × List PlaceholderIssue :=
  visit env "" input

end Placeholders

end Eudiplo
