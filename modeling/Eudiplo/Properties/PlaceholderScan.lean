import Eudiplo.ConfigFormat.Placeholders
import Eudiplo.Shared.Pattern
import Mathlib.Data.List.TakeWhile

/-!
# The placeholder scanner and its regular expression

`placeholderPattern` is the regular expression of the scanner's comment.  At an opener it matches
exactly where the scanner's attempt succeeds, since a run of variable letters, and a fallback, can
only end in one way (`matchAt_placeholder`).
-/

namespace Eudiplo

namespace Placeholders

open Patterns

variable {ι : Type} {text body rest pending input : List Char} {placeholder : Placeholder}

def char (c : Char) : Pattern Char := .letter (· == c)

/-- `/\$\x7b([A-Z0-9_]+)(?::([^\x7d]*))?\x7d/`. -/
def placeholderPattern : Pattern Char :=
  .seq (char '$') (.seq (char '\x7b')
    (.seq (.group 1 (.seq (.letter isVariableChar) (.run isVariableChar)))
      (.seq (.optional (.seq (char ':') (.group 2 (.run (· != '\x7d'))))) (char '\x7d'))))

def placeholderOf (outcome : Outcome Char) : Placeholder :=
  ⟨outcome.matched, (outcome.groups.lookup 1).getD [], outcome.groups.lookup 2⟩

/-- `String.replace` with a pattern: the matches are replaced, the other letters stay. -/
def replaceMatches (replace : Placeholder → List Char × List ι) (pieces : List (Piece Char)) :
    List Char × List ι :=
  (pieces.flatMap fun
    | .plain c => [c]
    | .found outcome => (replace (placeholderOf outcome)).1,
  pieces.flatMap fun
    | .plain _ => []
    | .found outcome => (replace (placeholderOf outcome)).2)

/-! ## The pattern at one position -/

def tailPattern : Pattern Char :=
  .seq (.optional (.seq (char ':') (.group 2 (.run (· != '\x7d'))))) (char '\x7d')

theorem outcomes_char_cons (c d : Char) (text : List Char) :
    outcomes (char c) (d :: text) = if d = c then [⟨[d], [], text⟩] else [] := by
  unfold char
  by_cases h : d = c
  · rw [outcomes_letter_pos (by simpa using h), if_pos h]
  · rw [outcomes_letter_neg (by simpa using h), if_neg h]

theorem outcomes_char_nil (c : Char) : outcomes (char c) [] = [] := outcomes_letter_nil

theorem outcomes_fallback (tail : List Char) :
    outcomes (.seq (.group 2 (.run (· != '\x7d'))) (char '\x7d')) tail =
      match findBrace tail with
      | none => []
      | some (fallback, rest) => [⟨fallback ++ ['\x7d'], [(2, fallback)], rest⟩] := by
  have hruns := flatMap_runs (p := (· != '\x7d')) (fun run rest =>
    (outcomes (char '\x7d') rest).map (Outcome.andThen ⟨run, [(2, run)], rest⟩))
    (fun run c text hc => by
      rw [outcomes_char_cons, if_neg (by simpa using hc)]
      rfl) tail
  have hseq : outcomes (.seq (.group 2 (.run (· != '\x7d'))) (char '\x7d')) tail =
      (runs (· != '\x7d') tail).flatMap fun run =>
        (outcomes (char '\x7d') run.2).map (Outcome.andThen ⟨run.1, [(2, run.1)], run.2⟩) := by
    rw [outcomes, outcomes, outcomes, List.map_map, List.flatMap_map]
    rfl
  rw [hseq, hruns]
  unfold findBrace
  cases hdrop : tail.dropWhile (· != '\x7d') with
  | nil => rw [outcomes_char_nil]; rfl
  | cons c rest =>
    have hc : c = '\x7d' := by
      have hhead := List.head?_dropWhile_not (· != '\x7d') tail
      rw [hdrop] at hhead
      simpa using hhead
    rw [outcomes_char_cons, if_pos hc, hc]
    rfl

theorem outcomes_tail (text : List Char) :
    outcomes tailPattern text =
      match text with
      | '\x7d' :: rest => [⟨['\x7d'], [], rest⟩]
      | ':' :: tail =>
        match findBrace tail with
        | none => []
        | some (fallback, rest) => [⟨':' :: fallback ++ ['\x7d'], [(2, fallback)], rest⟩]
      | _ => [] := by
  rw [tailPattern, outcomes_seq_optional, outcomes_seq_assoc]
  cases text with
  | nil => rw [char, outcomes_seq_letter_nil, outcomes_char_nil]; rfl
  | cons c tail =>
    by_cases hcolon : c = ':'
    · subst hcolon
      rw [outcomes_char_cons, if_neg (by decide), char, outcomes_seq_letter_pos rfl,
        outcomes_fallback, List.append_nil]
      cases hbrace : findBrace tail with
      | none => simp [hbrace]
      | some found => simp [hbrace, Outcome.andThen]
    · rw [char, outcomes_seq_letter_neg (by simpa using hcolon), outcomes_char_cons]
      by_cases hbrace : c = '\x7d'
      · subst hbrace
        rfl
      · rw [if_neg hbrace]
        split
        · next heq => exact absurd (List.cons.inj heq).1 hbrace
        · next heq => exact absurd (List.cons.inj heq).1 hcolon
        · rfl

theorem not_variableChar_brace : isVariableChar '\x7d' = false := by decide

theorem not_variableChar_colon : isVariableChar ':' = false := by decide

theorem outcomes_tail_variable {c : Char} (h : isVariableChar c = true) (text : List Char) :
    outcomes tailPattern (c :: text) = [] := by
  rw [outcomes_tail]
  split
  · next heq =>
    rw [(List.cons.inj heq).1, not_variableChar_brace] at h
    cases h
  · next heq =>
    rw [(List.cons.inj heq).1, not_variableChar_colon] at h
    cases h
  · rfl

theorem outcomes_variable (body : List Char) :
    outcomes (.seq (.group 1 (.seq (.letter isVariableChar) (.run isVariableChar))) tailPattern)
        body =
      if (body.takeWhile isVariableChar).isEmpty then []
      else (outcomes tailPattern (body.dropWhile isVariableChar)).map (Outcome.andThen
        ⟨body.takeWhile isVariableChar, [(1, body.takeWhile isVariableChar)],
          body.dropWhile isVariableChar⟩) := by
  cases body with
  | nil => rw [outcomes, outcomes, outcomes_seq_letter_nil]; rfl
  | cons c body =>
    by_cases hc : isVariableChar c = true
    · rw [List.takeWhile_cons_of_pos hc, List.dropWhile_cons_of_pos hc, if_neg (by simp)]
      have hruns := flatMap_runs (p := isVariableChar) (fun run rest =>
        (outcomes tailPattern rest).map (Outcome.andThen ⟨c :: run, [(1, c :: run)], rest⟩))
        (fun run a text ha => by rw [outcomes_tail_variable ha]; rfl) body
      rw [← hruns, outcomes, outcomes, outcomes_seq_letter_pos hc, outcomes, List.map_map,
        List.map_map, List.flatMap_map]
      rfl
    · rw [List.takeWhile_cons_of_neg hc, if_pos List.isEmpty_nil, outcomes, outcomes,
        outcomes_seq_letter_neg hc]
      rfl

theorem outcomes_opener (body : List Char) :
    outcomes placeholderPattern ('$' :: '\x7b' :: body) =
      (outcomes (.seq (.group 1 (.seq (.letter isVariableChar) (.run isVariableChar)))
        tailPattern) body).map fun outcome =>
          Outcome.andThen ⟨['$'], [], '\x7b' :: body⟩
            (Outcome.andThen ⟨['\x7b'], [], body⟩ outcome) := by
  rw [placeholderPattern, char, outcomes_seq_letter_pos rfl, char, outcomes_seq_letter_pos rfl,
    List.map_map]
  rfl

theorem outcomes_elsewhere {text : List Char}
    (h : ∀ body, text ≠ '$' :: '\x7b' :: body) : outcomes placeholderPattern text = [] := by
  rw [placeholderPattern, char]
  cases text with
  | nil => exact outcomes_seq_letter_nil
  | cons c text =>
    by_cases hc : c = '$'
    · subst hc
      rw [outcomes_seq_letter_pos rfl, char]
      cases text with
      | nil => rw [outcomes_seq_letter_nil]; rfl
      | cons d text =>
        have hd : d ≠ '\x7b' := fun hd => h text (by rw [hd])
        rw [outcomes_seq_letter_neg (by simpa using hd)]
        rfl
    · exact outcomes_seq_letter_neg (by simpa using hc)

/-- **The pattern matches where an attempt succeeds**, with its variable and its fallback. -/
theorem matchAt_opener (body : List Char) :
    (matchAt placeholderPattern ('$' :: '\x7b' :: body)).map
        (fun outcome => (placeholderOf outcome, outcome.rest)) =
      match attempt body with
      | .found placeholder rest => some (placeholder, rest)
      | _ => none := by
  rw [matchAt, outcomes_opener, outcomes_variable, outcomes_tail]
  unfold attempt
  by_cases hvariable : (body.takeWhile isVariableChar).isEmpty = true
  · rw [if_pos hvariable, if_pos hvariable]
    rfl
  rw [if_neg hvariable, if_neg hvariable]
  generalize body.takeWhile isVariableChar = variableName
  generalize body.dropWhile isVariableChar = after
  split
  · simp [placeholderOf, Outcome.andThen, List.lookup_cons, List.lookup_nil]
  · next tail =>
    cases hbrace : findBrace tail with
    | none => simp [hbrace]
    | some found => simp [hbrace, placeholderOf, Outcome.andThen, List.lookup_cons]
  · next hbrace hcolon =>
    -- Neither reader goes on; the second match may have been split with the first.
    first
    | rfl
    | split
      · next rest heq =>
        split at heq
        · exact (hbrace _ rfl).elim
        · exact (hcolon _ rfl).elim
        · cases heq
      · rfl

theorem matchAt_elsewhere {text : List Char} (h : ∀ body, text ≠ '$' :: '\x7b' :: body) :
    matchAt placeholderPattern text = none := by
  rw [matchAt, outcomes_elsewhere h]
  rfl

/-! ## The scanner -/

theorem findOpener_before {before body : List Char} (h : findOpener text = some (before, body))
    {a : Char} {skipped taken : List Char} (hbefore : before = taken ++ a :: skipped)
    (body' : List Char) : a :: skipped ++ '$' :: '\x7b' :: body ≠ '$' :: '\x7b' :: body' := by
  induction text using findOpener.induct generalizing before taken with
  | case1 =>
    rw [findOpener] at h
    rw [← (Prod.mk.inj (Option.some.inj h)).1] at hbefore
    exact absurd hbefore.symm (by simp)
  | case2 => cases h
  | case3 c text hopener ih =>
    rw [findOpener.eq_3 _ _ hopener] at h
    obtain ⟨⟨before', rest⟩, hfound, heq⟩ := Option.map_eq_some_iff.mp h
    obtain ⟨rfl, rfl⟩ := Prod.mk.inj heq
    cases taken with
    | cons _ taken => exact ih hfound (List.cons.inj hbefore).2
    | nil =>
      obtain ⟨rfl, rfl⟩ := List.cons.inj hbefore
      intro heq
      rw [List.cons_append, ← findOpener_split hfound] at heq
      obtain ⟨hc, htext⟩ := List.cons.inj heq
      exact hopener _ hc htext

theorem findOpener_none (h : findOpener text = none) {a : Char} {skipped taken : List Char}
    (htext : text = taken ++ a :: skipped) (body' : List Char) :
    a :: skipped ≠ '$' :: '\x7b' :: body' := by
  induction text using findOpener.induct generalizing taken with
  | case1 => cases h
  | case2 => exact absurd htext.symm (by simp)
  | case3 c text hopener ih =>
    rw [findOpener.eq_3 _ _ hopener, Option.map_eq_none_iff] at h
    cases taken with
    | cons _ taken => exact ih h (List.cons.inj htext).2
    | nil =>
      obtain ⟨rfl, rfl⟩ := List.cons.inj htext
      intro heq
      obtain ⟨hc, htext⟩ := List.cons.inj heq
      exact hopener _ hc htext

theorem mem_of_found (h : attempt body = .found placeholder rest) : '\x7d' ∈ body := by
  have hsplit := attempt_split h
  have hmem : '\x7d' ∈ placeholder.matched := by
    unfold attempt at h
    dsimp only at h
    split at h
    · cases h
    split at h
    · rw [← (Attempt.found.inj h).1]
      simp
    · split at h
      · cases h
      · rw [← (Attempt.found.inj h).1]
        simp
    · cases h
  have hall : '\x7d' ∈ '$' :: '\x7b' :: body := hsplit ▸ List.mem_append_left _ hmem
  simpa using hall

theorem no_match_unclosed (h : '\x7d' ∉ text) : matchAt placeholderPattern text = none := by
  by_cases hopener : ∃ body, text = '$' :: '\x7b' :: body
  · obtain ⟨body, rfl⟩ := hopener
    have hmatch := matchAt_opener body
    cases hattempt : attempt body with
    | found placeholder rest =>
      exact (h (List.mem_cons_of_mem _ (List.mem_cons_of_mem _ (mem_of_found hattempt)))).elim
    | failed =>
      rw [hattempt] at hmatch
      exact Option.map_eq_none_iff.mp hmatch
    | unclosed =>
      rw [hattempt] at hmatch
      exact Option.map_eq_none_iff.mp hmatch
  · exact matchAt_elsewhere fun body heq => hopener ⟨body, heq⟩

theorem not_mem_of_unclosed (h : attempt body = .unclosed) : '\x7d' ∉ body := by
  unfold attempt at h
  dsimp only at h
  split at h
  · cases h
  split at h
  · cases h
  · next tail hdrop =>
    split at h
    · next hbrace =>
      -- The letters of a variable and the colon are none either.
      have htail : '\x7d' ∉ tail := by
        unfold findBrace at hbrace
        split at hbrace
        · next hnone =>
          intro hmem
          have hne := List.dropWhile_eq_nil_iff.mp hnone _ hmem
          exact (nomatch hne)
        · exact (nomatch hbrace)
      rw [← List.takeWhile_append_dropWhile (p := isVariableChar) (l := body), hdrop]
      intro hmem
      rcases List.mem_append.mp hmem with hvariable | hrest
      · have hchar := List.mem_takeWhile_imp hvariable
        rw [not_variableChar_brace] at hchar
        exact (nomatch hchar)
      · rcases List.mem_cons.mp hrest with hcolon | hrest
        · exact absurd hcolon (by decide)
        · exact htail hrest
    · cases h
  · cases h

theorem replaceMatches_append (replace : Placeholder → List Char × List ι)
    (left right : List (Piece Char)) :
    replaceMatches replace (left ++ right) =
      ((replaceMatches replace left).1 ++ (replaceMatches replace right).1,
        (replaceMatches replace left).2 ++ (replaceMatches replace right).2) := by
  unfold replaceMatches
  rw [List.flatMap_append, List.flatMap_append]

theorem replaceMatches_plain (replace : Placeholder → List Char × List ι) (text : List Char) :
    replaceMatches replace (text.map .plain) = (text, []) := by
  induction text with
  | nil => rfl
  | cons c text ih =>
    have hcons := replaceMatches_append replace [.plain c] (text.map .plain)
    rw [ih] at hcons
    exact hcons

theorem replaceMatches_found (replace : Placeholder → List Char × List ι)
    (outcome : Outcome Char) (pieces : List (Piece Char)) :
    replaceMatches replace (.found outcome :: pieces) =
      ((replace (placeholderOf outcome)).1 ++ (replaceMatches replace pieces).1,
        (replace (placeholderOf outcome)).2 ++ (replaceMatches replace pieces).2) := rfl

theorem search_failed (h : attempt body = .failed) :
    search placeholderPattern ('$' :: '\x7b' :: body) =
      ['$', '\x7b'].map .plain ++ search placeholderPattern body := by
  have hmatch := matchAt_opener body
  rw [h] at hmatch
  rw [search_cons_none (Option.map_eq_none_iff.mp hmatch),
    search_cons_none (matchAt_elsewhere fun _ heq => absurd (List.cons.inj heq).1 (by decide))]
  rfl

theorem search_opener {before : List Char} (h : findOpener text = some (before, body)) :
    search placeholderPattern text =
      before.map .plain ++ search placeholderPattern ('$' :: '\x7b' :: body) := by
  conv_lhs => rw [findOpener_split h]
  exact search_append before ('$' :: '\x7b' :: body) fun a skipped ⟨taken, htaken⟩ =>
    matchAt_elsewhere (findOpener_before h htaken)

theorem search_found (h : attempt body = .found placeholder rest) :
    ∃ outcome, placeholderOf outcome = placeholder ∧
      search placeholderPattern ('$' :: '\x7b' :: body) =
        .found outcome :: search placeholderPattern rest := by
  have hmatch := matchAt_opener body
  rw [h] at hmatch
  obtain ⟨outcome, hat, heq⟩ := Option.map_eq_some_iff.mp hmatch
  obtain ⟨hplaceholder, hrest⟩ := Prod.mk.inj heq
  have hlength : outcome.rest.length ≤ ('\x7b' :: body).length := by
    rw [hrest, List.length_cons]
    exact (attempt_length h).trans (Nat.le_succ _)
  exact ⟨outcome, hplaceholder, hrest ▸ search_cons_found hat hlength⟩

theorem search_unclosed (h : attempt body = .unclosed) :
    search placeholderPattern ('$' :: '\x7b' :: body) = ('$' :: '\x7b' :: body).map .plain :=
  search_plain fun a skipped ⟨taken, htaken⟩ => no_match_unclosed fun hmem => by
    have hall : '\x7d' ∈ '$' :: '\x7b' :: body := htaken ▸ List.mem_append_right _ hmem
    exact not_mem_of_unclosed h (by simpa using hall)

theorem replaceFrom_opener (replace : Placeholder → List Char × List ι) (pending : List Char)
    {before : List Char} (h : findOpener input = some (before, body)) :
    replaceFrom replace pending input =
      match attempt body with
      | .unclosed => (pending ++ input, [])
      | .failed => replaceFrom replace (pending ++ before ++ ['$', '\x7b']) body
      | .found placeholder rest =>
        (pending ++ before ++ (replace placeholder).1 ++ (replaceFrom replace [] rest).1,
          (replace placeholder).2 ++ (replaceFrom replace [] rest).2) := by
  rw [replaceFrom]
  split
  · next hnone => cases hnone.symm.trans h
  next before' body' hopener =>
  obtain ⟨rfl, rfl⟩ := Prod.mk.inj (Option.some.inj (hopener.symm.trans h))
  split
  · next hattempt => rw [hattempt]
  · next hattempt => rw [hattempt]
  · next hattempt => rw [hattempt]

/-- **The loop of the scanner** replaces what the search finds. -/
theorem replaceFrom_eq (replace : Placeholder → List Char × List ι) (pending input : List Char) :
    replaceFrom replace pending input =
      (pending ++ (replaceMatches replace (search placeholderPattern input)).1,
        (replaceMatches replace (search placeholderPattern input)).2) := by
  induction pending, input using replaceFrom.induct replace with
  | case1 pending input hopener =>
    have hplain : search placeholderPattern input = input.map .plain :=
      search_plain fun a skipped ⟨taken, htaken⟩ =>
        matchAt_elsewhere (findOpener_none hopener htaken)
    rw [replaceFrom, hplain, replaceMatches_plain]
    split
    · rfl
    · next hsome => exact (nomatch hopener.symm.trans hsome)
  | case2 pending input before body hopener hattempt =>
    rw [replaceFrom_opener replace pending hopener, hattempt, search_opener hopener,
      search_unclosed hattempt, ← List.map_append, replaceMatches_plain,
      ← findOpener_split hopener]
  | case3 pending input before body hopener hattempt ih =>
    rw [replaceFrom_opener replace pending hopener, hattempt, search_opener hopener,
      search_failed hattempt, replaceMatches_append, replaceMatches_append, replaceMatches_plain,
      replaceMatches_plain]
    dsimp only
    rw [ih]
    simp only [List.append_assoc, List.nil_append]
  | case4 pending input before body hopener placeholder rest hattempt ih =>
    obtain ⟨outcome, rfl, hfound⟩ := search_found hattempt
    rw [replaceFrom_opener replace pending hopener, hattempt, search_opener hopener, hfound,
      replaceMatches_append, replaceMatches_plain, replaceMatches_found]
    dsimp only
    rw [ih]
    simp only [List.append_assoc, List.nil_append]

/-! ## Values -/

def substitutePiece (env : String → Option String) : Piece Char → List Char
  | .plain c => [c]
  | .found outcome =>
    let placeholder := placeholderOf outcome
    ((environmentValue env placeholder.variableName).or placeholder.fallback).getD
      placeholder.matched

def substitute (env : String → Option String) (s : String) : String :=
  String.ofList ((search placeholderPattern s.toList).flatMap (substitutePiece env))

/-- The variables of the matches that have neither a value nor a fallback, in their order. -/
def unresolvedVariables (env : String → Option String) (s : String) : List (List Char) :=
  (search placeholderPattern s.toList).filterMap fun
    | .plain _ => none
    | .found outcome =>
      let placeholder := placeholderOf outcome
      if (environmentValue env placeholder.variableName).isNone && placeholder.fallback.isNone then
        some placeholder.variableName
      else none

mutual

def mapStrings (f : String → String) : Json → Json
  | .str s => .str (f s)
  | .arr items => .arr (mapItems f items)
  | .obj members => .obj (mapMembers f members)
  | value => value

def mapItems (f : String → String) : List Json → List Json
  | [] => []
  | item :: items => mapStrings f item :: mapItems f items

def mapMembers (f : String → String) : List (String × Json) → List (String × Json)
  | [] => []
  | (key, item) :: members => (key, mapStrings f item) :: mapMembers f members

end

mutual

def stringsOf (path : String) : Json → List (String × String)
  | .str s => [(path, s)]
  | .arr items => itemStrings path 0 items
  | .obj members => memberStrings path members
  | _ => []

def itemStrings (path : String) (i : Nat) : List Json → List (String × String)
  | [] => []
  | item :: items => stringsOf (memberPath path (toString i)) item ++ itemStrings path (i + 1) items

def memberStrings (path : String) : List (String × Json) → List (String × String)
  | [] => []
  | (key, item) :: members => stringsOf (memberPath path key) item ++ memberStrings path members

end

def reported (env : String → Option String) (strings : List (String × String)) :
    List PlaceholderIssue :=
  strings.flatMap fun entry => (unresolvedVariables env entry.2).map (unresolvedIssue entry.1)

theorem resolvePlaceholder_fst (env : String → Option String) (path : String)
    (placeholder : Placeholder) : (resolvePlaceholder env path placeholder).1 =
      ((environmentValue env placeholder.variableName).or placeholder.fallback).getD
        placeholder.matched := by
  unfold resolvePlaceholder
  cases environmentValue env placeholder.variableName with
  | some value => rfl
  | none => cases placeholder.fallback <;> rfl

theorem visit_str (env : String → Option String) (path s : String) :
    visit env path (.str s) = (.str (substitute env s),
      (unresolvedVariables env s).map (unresolvedIssue path)) := by
  rw [visit, replacePlaceholders, replaceFrom_eq, List.nil_append]
  dsimp only
  unfold substitute unresolvedVariables replaceMatches
  congr 1
  · congr 2
    refine List.flatMap_congr fun piece _ => ?_
    cases piece with
    | plain c => rfl
    | found outcome => exact resolvePlaceholder_fst env path (placeholderOf outcome)
  · generalize search placeholderPattern s.toList = pieces
    dsimp only
    induction pieces with
    | nil => rfl
    | cons piece pieces ih =>
      rw [List.flatMap_cons, ih, List.filterMap_cons]
      cases piece with
      | plain c => rfl
      | found outcome =>
        dsimp only
        unfold resolvePlaceholder
        cases environmentValue env (placeholderOf outcome).variableName with
        | some value => rfl
        | none => cases (placeholderOf outcome).fallback <;> rfl

mutual

/-- **A value is resolved string by string**, at every depth. -/
theorem visit_eq (env : String → Option String) (path : String) : (value : Json) →
    visit env path value =
      (mapStrings (substitute env) value, reported env (stringsOf path value))
  | .str s => by
    rw [visit_str, mapStrings, stringsOf, reported, List.flatMap_singleton]
  | .arr items => by rw [visit, visitItems_eq, mapStrings, stringsOf]
  | .obj members => by rw [visit, visitMembers_eq, mapStrings, stringsOf]
  | .null => rfl
  | .bool _ => rfl
  | .num _ _ => rfl

theorem visitItems_eq (env : String → Option String) (path : String) (i : Nat) :
    (items : List Json) → visitItems env path i items =
      (mapItems (substitute env) items, reported env (itemStrings path i items))
  | [] => rfl
  | item :: items => by
    rw [visitItems, visit_eq, visitItems_eq, mapItems, itemStrings, reported, reported, reported,
      List.flatMap_append]

theorem visitMembers_eq (env : String → Option String) (path : String) :
    (members : List (String × Json)) → visitMembers env path members =
      (mapMembers (substitute env) members, reported env (memberStrings path members))
  | [] => rfl
  | (key, item) :: members => by
    rw [visitMembers, visit_eq, visitMembers_eq, mapMembers, memberStrings, reported, reported,
      reported, List.flatMap_append]

end

end Placeholders

open Placeholders Patterns

/-- **The scanner and the resolution of a value**: `replacePlaceholders` replaces the matches of a
global search for the regular expression, for every replacer; `resolveConfigVariables` substitutes
each match of each string of the value once, and reports the matches that have neither a value that
is not empty nor a fallback. -/
theorem placeholders_resolved :
    (∀ {ι : Type} (input : List Char) (replace : Placeholder → List Char × List ι),
      replacePlaceholders input replace =
        replaceMatches replace (search placeholderPattern input)) ∧
    ∀ input env, resolveConfigVariables input env =
      (mapStrings (substitute env) input, reported env (stringsOf "" input)) :=
  ⟨fun input replace => by rw [replacePlaceholders, replaceFrom_eq, List.nil_append],
    fun input env => visit_eq env "" input⟩

end Eudiplo
