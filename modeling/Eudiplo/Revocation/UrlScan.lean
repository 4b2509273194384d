import Mathlib.Data.List.TakeWhile
import Mathlib.Tactic
import Eudiplo.Revocation.DistributionPoints

/-!
# Scanning bytes for URLs

What the search for URLs finds in a text put together from URLs, characters that end a match, and
short stretches of other characters; and why it does not matter how bytes outside ASCII are
decoded.
-/

namespace Eudiplo

namespace DistributionPoints

open Network (Text)

variable {text xs ys url scheme : Text} {char c : Char}

/-! ## One match -/

theorem matchUrl_spec {rest : Text} (h : matchUrl text = some (url, rest)) :
    url ++ rest = text ∧ ∃ scheme ∈ schemes, ∃ run, run ≠ [] ∧
      (∀ char ∈ run, isPrintable char = true) ∧ url = scheme ++ run := by
  rw [matchUrl, Option.bind_eq_some_iff] at h
  obtain ⟨scheme, hfind, h⟩ := h
  split at h
  · cases h
  · rename_i hrun
    obtain ⟨rfl, rfl⟩ := Prod.mk.inj (Option.some.inj h)
    have hprefix := List.find?_some hfind
    obtain ⟨tail, rfl⟩ := List.isPrefixOf_iff_prefix.mp hprefix
    rw [List.drop_left] at hrun ⊢
    refine ⟨by rw [List.append_assoc, List.takeWhile_append_dropWhile], scheme,
      List.mem_of_find?_eq_some hfind, _, fun hnil => hrun (by rw [hnil]; rfl), ?_, rfl⟩
    exact fun char hmem => List.mem_takeWhile_imp hmem

theorem scheme_printable : ∀ scheme ∈ schemes, ∀ char ∈ scheme, isPrintable char = true := by
  have hall : (schemes.all fun scheme => scheme.all isPrintable) = true := by decide
  intro scheme hscheme
  exact List.all_eq_true.mp (List.all_eq_true.mp hall scheme hscheme)

theorem scheme_ne_nil : ∀ scheme ∈ schemes, scheme ≠ [] := by decide

theorem matchUrl_append (h : IsUrl url) (xs : Text) :
    matchUrl (url ++ xs) =
      some (url ++ xs.takeWhile isPrintable, xs.dropWhile isPrintable) := by
  obtain ⟨scheme, hscheme, run, hrun, rfl⟩ := h.scheme
  have hprintable : ∀ char ∈ run, isPrintable char = true :=
    fun char hmem => h.printable char (List.mem_append_right _ hmem)
  have hfind : schemes.find? (fun s => s.isPrefixOf (scheme ++ run ++ xs)) = some scheme := by
    rw [schemes, List.mem_cons, List.mem_singleton] at hscheme
    rcases hscheme with rfl | rfl
    · exact List.find?_cons_of_pos (by simp)
    · rw [schemes, List.find?_cons_of_neg (by simp)]
      exact List.find?_cons_of_pos (by simp)
  have htake : (run ++ xs).takeWhile isPrintable = run ++ xs.takeWhile isPrintable :=
    List.takeWhile_append_of_pos hprintable
  have hdrop : (run ++ xs).dropWhile isPrintable = xs.dropWhile isPrintable :=
    List.dropWhile_append_of_pos hprintable
  rw [matchUrl, hfind, Option.bind_some, List.append_assoc, List.drop_left, htake, hdrop]
  rw [if_neg (by simp [hrun]), List.append_assoc]

/-! ## All matches -/

theorem matchFrom_eq_drop (n : ℕ) (text : Text) :
    matchFrom n text = urlMatches (text.drop n) := by
  induction text generalizing n with
  | nil => rw [List.drop_nil]; cases n <;> rfl
  | cons c text ih =>
    cases n with
    | zero => rfl
    | succ n => exact ih n

theorem urlMatches_of_none (h : matchUrl (c :: text) = none) :
    urlMatches (c :: text) = urlMatches text := by
  rw [urlMatches, matchFrom, h]
  rfl

theorem urlMatches_of_some {rest : Text} (h : matchUrl text = some (url, rest)) :
    urlMatches text = url :: urlMatches rest := by
  obtain ⟨rfl, scheme, -, run, hrun, -, hurl⟩ := matchUrl_spec h
  obtain ⟨c, cs, hcs⟩ : ∃ c cs, url = c :: cs := by
    cases url with
    | nil => exact absurd (List.append_eq_nil_iff.mp hurl.symm).2 hrun
    | cons c cs => exact ⟨c, cs, rfl⟩
  rw [hcs, List.cons_append] at h ⊢
  rw [urlMatches, matchFrom, h]
  dsimp only
  rw [matchFrom_eq_drop, List.length_cons, Nat.add_sub_cancel, List.drop_left]

/-- **A URL and what follows it**: printable characters that follow are taken for its own. -/
theorem urlMatches_url (h : IsUrl url) (xs : Text) :
    urlMatches (url ++ xs) =
      (url ++ xs.takeWhile isPrintable) :: urlMatches (xs.dropWhile isPrintable) :=
  urlMatches_of_some (matchUrl_append h xs)

theorem scheme_head : ∀ scheme ∈ schemes, scheme.head? = some 'h' := by decide

theorem isPrefixOf_getElem? (h : scheme.isPrefixOf text = true) {i : ℕ} (hi : i < scheme.length) :
    text[i]? = scheme[i]? := by
  obtain ⟨tail, rfl⟩ := List.isPrefixOf_iff_prefix.mp h
  exact List.getElem?_append_left hi

theorem matchUrl_none (h : ∀ scheme ∈ schemes, scheme.isPrefixOf text = false) :
    matchUrl text = none := by
  have hfind : schemes.find? (fun scheme => scheme.isPrefixOf text) = none :=
    List.find?_eq_none.mpr fun scheme hmem => by simp [h scheme hmem]
  rw [matchUrl, hfind, Option.bind_none]

theorem urlMatches_cons (h : c ≠ 'h') : urlMatches (c :: text) = urlMatches text := by
  refine urlMatches_of_none (matchUrl_none fun scheme hmem => ?_)
  by_contra hprefix
  have hhead := isPrefixOf_getElem? (Bool.eq_true_of_not_eq_false hprefix)
    (List.length_pos_iff.mpr (scheme_ne_nil scheme hmem))
  rw [← List.head?_eq_getElem?, ← List.head?_eq_getElem?, scheme_head scheme hmem] at hhead
  exact h (Option.some.inj hhead)

/-! ## Stretches that cannot begin a URL -/

/-- The character cannot stand at the second to seventh place of a match. -/
def Breaks (char : Char) : Prop := char ∉ ['t', 'p', 's', ':', '/']

/-- The text is empty or starts with a character that breaks a scheme. -/
def Starts (text : Text) : Prop := ∀ char ∈ text.head?, Breaks char

theorem scheme_places : ∀ scheme ∈ schemes, ∀ i : Fin 6, ∀ char ∈ scheme[i.val + 1]?,
    ¬Breaks char := by
  have hall : (schemes.all fun scheme => (List.finRange 6).all fun i =>
      (scheme[i.val + 1]?).all fun char => ['t', 'p', 's', ':', '/'].contains char) = true := by
    decide
  intro scheme hscheme i char hchar hbreaks
  have hplaces := List.all_eq_true.mp (List.all_eq_true.mp hall scheme hscheme) i
    (List.mem_finRange i)
  rw [Option.mem_def.mp hchar] at hplaces
  exact hbreaks (List.contains_iff_mem.mp hplaces)

theorem scheme_length : ∀ scheme ∈ schemes, 7 ≤ scheme.length := by decide

/-- **A short stretch is skipped** if what follows it breaks a scheme. -/
theorem urlMatches_skip (hlength : xs.length ≤ 6) (hys : Starts ys) :
    urlMatches (xs ++ ys) = urlMatches ys := by
  induction xs with
  | nil => rfl
  | cons c xs ih =>
    rw [List.length_cons] at hlength
    rw [List.cons_append, ← ih (by omega)]
    refine urlMatches_of_none (matchUrl_none fun scheme hmem => ?_)
    by_contra hprefix
    have hseven := scheme_length scheme hmem
    have hplace : ys.head? = scheme[xs.length + 1]? := by
      rw [← isPrefixOf_getElem? (Bool.eq_true_of_not_eq_false hprefix) (by omega),
        List.getElem?_cons_succ, List.getElem?_append_right le_rfl, Nat.sub_self,
        List.head?_eq_getElem?]
    have hsome : ∃ char, scheme[xs.length + 1]? = some char :=
      ⟨_, List.getElem?_eq_getElem (by omega)⟩
    obtain ⟨char, hchar⟩ := hsome
    exact scheme_places scheme hmem ⟨xs.length, by omega⟩ char hchar
      (hys char (hplace.trans hchar))

/-! ## Characters that end a match -/

theorem isPrefixOf_break (hscheme : ∀ char ∈ scheme, isPrintable char = true)
    (hc : isPrintable c = false) : scheme.isPrefixOf (xs ++ c :: ys) = scheme.isPrefixOf xs := by
  induction scheme generalizing xs with
  | nil => simp
  | cons a scheme ih =>
    have ha : isPrintable a = true := hscheme a List.mem_cons_self
    cases xs with
    | nil =>
      have hne : (a == c) = false := by
        rw [beq_eq_false_iff_ne]
        rintro rfl
        exact Bool.false_ne_true (hc.symm.trans ha)
      simp [List.isPrefixOf, hne]
    | cons x xs =>
      rw [List.cons_append, List.isPrefixOf, List.isPrefixOf,
        ih fun char hmem => hscheme char (List.mem_cons_of_mem _ hmem)]

theorem takeWhile_break (hc : isPrintable c = false) :
    (xs ++ c :: ys).takeWhile isPrintable = xs.takeWhile isPrintable := by
  induction xs with
  | nil => simp [hc]
  | cons x xs ih => rw [List.cons_append, List.takeWhile_cons, List.takeWhile_cons, ih]

theorem dropWhile_break (hc : isPrintable c = false) :
    (xs ++ c :: ys).dropWhile isPrintable = xs.dropWhile isPrintable ++ c :: ys := by
  induction xs with
  | nil => simp [hc]
  | cons x xs ih =>
    rw [List.cons_append, List.dropWhile_cons, List.dropWhile_cons, ih]
    split <;> rfl

theorem matchUrl_break (hc : isPrintable c = false) :
    matchUrl (xs ++ c :: ys) = (matchUrl xs).map fun found => (found.1, found.2 ++ c :: ys) := by
  have hfind : schemes.find? (fun scheme => scheme.isPrefixOf (xs ++ c :: ys)) =
      schemes.find? fun scheme => scheme.isPrefixOf xs := by
    rw [schemes]
    have hprefix : ∀ scheme ∈ schemes, scheme.isPrefixOf (xs ++ c :: ys) = scheme.isPrefixOf xs :=
      fun scheme hmem => isPrefixOf_break (scheme_printable scheme hmem) hc
    simp only [List.find?_cons, List.find?_nil, hprefix _ (List.mem_cons_self ..),
      hprefix _ (List.mem_cons_of_mem _ (List.mem_cons_self ..))]
  rw [matchUrl, matchUrl, hfind]
  cases hscheme : schemes.find? fun scheme => scheme.isPrefixOf xs with
  | none => rfl
  | some scheme =>
    have hprefix : scheme.isPrefixOf xs = true := by simpa using List.find?_some hscheme
    obtain ⟨tail, rfl⟩ := List.isPrefixOf_iff_prefix.mp hprefix
    rw [Option.bind_some, Option.bind_some, List.append_assoc, List.drop_left, List.drop_left,
      takeWhile_break hc, dropWhile_break hc]
    split <;> rfl

/-- **A character that is not printable parts the matches.** -/
theorem urlMatches_break (hc : isPrintable c = false) :
    urlMatches (xs ++ c :: ys) = urlMatches xs ++ urlMatches ys := by
  have hcons : urlMatches (c :: ys) = urlMatches ys := by
    refine urlMatches_cons ?_
    rintro rfl
    exact absurd hc (by decide)
  induction hn : xs.length using Nat.strong_induction_on generalizing xs with
  | _ n ih =>
    subst hn
    cases xs with
    | nil => exact hcons
    | cons x xs =>
      have hbreak : matchUrl ((x :: xs) ++ c :: ys) = _ := matchUrl_break hc
      cases hmatch : matchUrl (x :: xs) with
      | none =>
        rw [hmatch] at hbreak
        rw [urlMatches_of_none hmatch]
        exact (urlMatches_of_none hbreak).trans (ih xs.length (Nat.lt_succ_self _) rfl)
      | some found =>
        obtain ⟨url, rest⟩ := found
        rw [hmatch] at hbreak
        obtain ⟨heq, scheme, -, run, hrun, -, hurl⟩ := matchUrl_spec hmatch
        have hshorter : rest.length < (x :: xs).length := by
          rw [← heq, List.length_append, hurl, List.length_append]
          have := List.length_pos_iff.mpr hrun
          omega
        rw [urlMatches_of_some hbreak, urlMatches_of_some hmatch, List.cons_append,
          ih rest.length hshorter rfl]

theorem mem_urlMatches (h : url ∈ urlMatches text) :
    (∀ char ∈ url, isPrintable char = true) ∧ ∃ scheme ∈ schemes, scheme <+: url := by
  induction hn : text.length using Nat.strong_induction_on generalizing text with
  | _ n ih =>
    subst hn
    cases text with
    | nil => cases h
    | cons c text =>
      cases hmatch : matchUrl (c :: text) with
      | none =>
        rw [urlMatches_of_none hmatch] at h
        exact ih text.length (Nat.lt_succ_self _) h rfl
      | some found =>
        obtain ⟨first, rest⟩ := found
        obtain ⟨heq, scheme, hscheme, run, hrun, hprintable, hurl⟩ := matchUrl_spec hmatch
        rw [urlMatches_of_some hmatch] at h
        rcases List.mem_cons.mp h with rfl | h
        · refine ⟨fun char hmem => ?_, scheme, hscheme, run, hurl.symm⟩
          rw [hurl] at hmem
          rcases List.mem_append.mp hmem with hmem | hmem
          · exact scheme_printable scheme hscheme char hmem
          · exact hprintable char hmem
        · refine ih rest.length ?_ h rfl
          rw [← heq, List.length_append, hurl, List.length_append]
          have := List.length_pos_iff.mpr hrun
          omega

theorem extract_eq_urlMatches (rawData : List UInt8) :
    extractUrlsFromRawCdp rawData = urlMatches (Utf8Decoder.decode rawData) := by
  have hclean : (urlMatches (Utf8Decoder.decode rawData)).map cleanUrl =
      urlMatches (Utf8Decoder.decode rawData) := by
    conv_rhs => rw [← List.map_id (urlMatches (Utf8Decoder.decode rawData))]
    exact List.map_congr_left fun url hmem =>
      List.filter_eq_self.mpr (mem_urlMatches hmem).1
  rw [extractUrlsFromRawCdp, hclean, List.filter_eq_self]
  intro url hmem
  obtain ⟨-, scheme, hscheme, hprefix⟩ := mem_urlMatches hmem
  exact List.any_eq_true.mpr ⟨scheme, hscheme, List.isPrefixOf_iff_prefix.mpr hprefix⟩

end DistributionPoints

end Eudiplo
