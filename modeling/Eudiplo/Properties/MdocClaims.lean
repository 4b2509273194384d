import Eudiplo.Credential.Mdoc

/-!
# Does an mdoc issue the resolved claims?

The mdoc issuer takes from a namespace with defaults the defaults, and puts every other claim into
the default namespace under its top-level name.  `mdoc_issues_resolved_claims` says for which
configurations and claims that is what the fields declare.
-/

namespace Eudiplo

namespace Mdoc

/-! ## Values at a path -/

/-- The values of a claim path, one for each position that `null` stands for. -/
def valuesAt : Json → List Segment → List Json
  | value, [] => [value]
  | .obj members, .name s :: rest => ((members.lookup s).map (valuesAt · rest)).getD []
  | .arr items, .index i :: rest => (items[i]?.map (valuesAt · rest)).getD []
  | .arr items, .all :: rest => items.flatMap (valuesAt · rest)
  | _, _ :: _ => []

variable (fields : List ClaimFieldDefinition) (defaultNamespace : String) (claims : Members)

def namespaceOf (f : Field) : String := (getFieldNamespace f).getD defaultNamespace

/-- Where a field is issued within its namespace; a path of the namespace's name alone stays. -/
def elementPath (f : Field) : List Segment :=
  match getFieldNamespace f with
  | none => f.path
  | some ns =>
    match normalizedPath ns f.path with
    | [] => f.path
    | path => path

/-- **A resolved claim**: a field without children whose path has a value in the claims. -/
structure Resolved (f : Field) : Prop where
  mem : f ∈ flattenFields fields
  leaf : f.hasChildren = false
  named : f.path ≠ []
  hasValue : valuesAt (.obj claims) f.path ≠ []

/-- An element that a resolved claim declares. -/
def Declared (ns element : String) : Prop :=
  ∃ f, Resolved fields claims f ∧ namespaceOf defaultNamespace f = ns ∧
    (elementPath f).head?.map segmentToKey = some element

/-- **The mdoc issues exactly the resolved claims**: each in its namespace with its value, and no
element besides. -/
structure IssuesResolved : Prop where
  issued : ∀ f, Resolved fields claims f →
    valuesAt (.obj (elementsOf (addClaimsToIssuer fields defaultNamespace claims)
      (namespaceOf defaultNamespace f))) (elementPath f) = valuesAt (.obj claims) f.path
  nothingElse : ∀ ns element value,
    (elementsOf (addClaimsToIssuer fields defaultNamespace claims) ns).lookup element =
      some value → Declared fields defaultNamespace claims ns element

/-- Is this top-level claim put into the default namespace under its own name? -/
def Kept (name : String) : Prop :=
  (buildClaimsByNamespace fields).lookup name = none ∧ (claims.lookup name).isSome = true

/-- **The claims stay where they are**: a resolved claim of the default namespace keeps its name
and its path, or the static defaults hold its value; and every default and every other top-level
claim is one that a resolved claim declares. -/
structure ClaimsStay : Prop where
  kept : ∀ f name, Resolved fields claims f → (elementPath f).head?.map segmentToKey = some name →
    namespaceOf defaultNamespace f = defaultNamespace → Kept fields claims name →
      valuesAt (.obj claims) (elementPath f) = valuesAt (.obj claims) f.path
  byDefault : ∀ f name, Resolved fields claims f →
    (elementPath f).head?.map segmentToKey = some name →
    ¬(namespaceOf defaultNamespace f = defaultNamespace ∧ Kept fields claims name) →
      valuesAt (.obj (elementsOf (buildClaimsByNamespace fields)
        (namespaceOf defaultNamespace f))) (elementPath f) = valuesAt (.obj claims) f.path
  defaults : ∀ ns element value,
    (elementsOf (buildClaimsByNamespace fields) ns).lookup element = some value →
      Declared fields defaultNamespace claims ns element
  others : ∀ name, Kept fields claims name → Declared fields defaultNamespace claims
    defaultNamespace name

variable {fields defaultNamespace claims}

/-! ## Look-ups -/

theorem lookup_filter_key {α : Type*} (p : String → Bool) (l : List (String × α)) (k : String) :
    (l.filter fun m => p m.1).lookup k = if p k then l.lookup k else none := by
  induction l with
  | nil => simp
  | cons m l ih =>
    obtain ⟨k', v⟩ := m
    rw [List.filter_cons]
    by_cases hk : k = k'
    · subst hk
      by_cases hp : p k = true
      · rw [if_pos hp, if_pos hp, List.lookup_cons_self, List.lookup_cons_self]
      · rw [if_neg hp, ih, if_neg hp, if_neg hp]
    · have hne : (k == k') = false := by simpa using hk
      split
      · rw [List.lookup_cons, List.lookup_cons, hne]
        exact ih
      · rw [List.lookup_cons, hne]
        exact ih

theorem lookup_append {α : Type*} (l l' : List (String × α)) (k : String) :
    (l ++ l').lookup k = (l.lookup k).or (l'.lookup k) := by
  induction l with
  | nil => rfl
  | cons m l ih =>
    rw [List.cons_append, List.lookup_cons, List.lookup_cons]
    split
    · rfl
    · exact ih

@[simp] theorem lookup_spread (left right : Members) (k : String) :
    (spread left right).lookup k = (right.lookup k).or (left.lookup k) := by
  unfold spread
  rw [lookup_append, lookup_filter_key fun name => (right.lookup name).isNone]
  cases right.lookup k <;> rfl

@[simp] theorem elementsOf_putNamespace (namespaces : Namespaces) (ns ns' : String)
    (elements : Members) : elementsOf (putNamespace namespaces ns elements) ns' =
      if ns' = ns then elements else elementsOf namespaces ns' := by
  unfold elementsOf putNamespace
  rw [List.lookup_cons]
  by_cases h : ns' = ns
  · subst h
    rw [beq_self_eq_true, if_pos rfl]
    rfl
  · have hne : (ns' == ns) = false := by simpa using h
    rw [hne, if_neg h]
    dsimp only
    rw [lookup_filter_key fun name => decide (name ≠ ns), if_pos (by simpa using h)]

theorem elementsOf_filter (namespaces : Namespaces) (ns : String)
    (hnodup : (namespaces.map (·.1)).Nodup) :
    elementsOf (namespaces.filter fun entry => !entry.2.isEmpty) ns = elementsOf namespaces ns := by
  unfold elementsOf
  induction namespaces with
  | nil => rfl
  | cons entry namespaces ih =>
    obtain ⟨ns', elements⟩ := entry
    rw [List.map_cons, List.nodup_cons] at hnodup
    have hrest := ih hnodup.2
    rw [List.filter_cons, List.lookup_cons]
    by_cases h : ns = ns'
    · subst h
      rw [beq_self_eq_true]
      dsimp only
      cases elements with
      | cons element elements => 
        rw [if_pos (by rfl), List.lookup_cons_self]
      | nil =>
        -- the entry that is left out was the only one
        have hnone : namespaces.lookup ns = none := by
          refine List.lookup_eq_none_iff.mpr fun entry hentry => ?_
          have hne : entry.1 ≠ ns := fun heq => hnodup.1 (List.mem_map.mpr ⟨entry, hentry, heq⟩)
          simpa using hne.symm
        rw [if_neg (by decide), hrest, hnone]
        rfl
    · have hne : (ns == ns') = false := by simpa using h
      rw [hne]
      dsimp only
      rw [← hrest]
      split
      · rw [List.lookup_cons, hne]
      · rfl

theorem nodup_putNamespace {namespaces : Namespaces} (ns : String) (elements : Members)
    (h : (namespaces.map (·.1)).Nodup) :
    ((putNamespace namespaces ns elements).map (·.1)).Nodup := by
  unfold putNamespace
  rw [List.map_cons, List.nodup_cons]
  constructor
  · intro hmem
    obtain ⟨entry, hentry, heq⟩ := List.mem_map.mp hmem
    have hne := (List.mem_filter.mp hentry).2
    rw [decide_eq_true_eq] at hne
    exact hne heq
  · exact h.sublist (List.filter_sublist.map _)

theorem nodup_buildClaimsByNamespace (fields : List ClaimFieldDefinition) :
    ((buildClaimsByNamespace fields).map (·.1)).Nodup := by
  unfold buildClaimsByNamespace
  generalize flattenFields fields = fs
  have hstep (fs : List Field) (namespaces : Namespaces) (h : (namespaces.map (·.1)).Nodup) :
      ((fs.foldl addDefault namespaces).map (·.1)).Nodup := by
    induction fs generalizing namespaces with
    | nil => exact h
    | cons f fs ih =>
      rw [List.foldl_cons]
      refine ih _ ?_
      unfold addDefault
      split
      · exact nodup_putNamespace _ _ h
      · exact h
  exact hstep fs [] List.nodup_nil

theorem valuesAt_congr {members members' : Members} {path : List Segment} {name : String}
    (hname : path.head?.map segmentToKey = some name)
    (h : members.lookup name = members'.lookup name) :
    valuesAt (.obj members) path = valuesAt (.obj members') path := by
  cases path with
  | nil => cases hname
  | cons segment rest =>
    cases segment with
    | name s =>
      obtain rfl : s = name := Option.some.inj hname
      unfold valuesAt
      rw [h]
    | index i => rfl
    | all => rfl

theorem elementPath_head {f : Field} (h : f.path ≠ []) :
    ∃ name, (elementPath f).head?.map segmentToKey = some name := by
  have hne : elementPath f ≠ [] := by
    unfold elementPath
    split
    · exact h
    · split
      · exact h
      · assumption
  cases hpath : elementPath f with
  | nil => exact absurd hpath hne
  | cons segment rest => exact ⟨segmentToKey segment, rfl⟩

/-! ## What is issued -/

theorem lookup_defaultNamespaceClaims (name : String) :
    (defaultNamespaceClaims fields claims).lookup name =
      if (buildClaimsByNamespace fields).lookup name = none then claims.lookup name else none := by
  unfold defaultNamespaceClaims
  rw [lookup_filter_key fun name => ((buildClaimsByNamespace fields).lookup name).isNone]
  simp only [Option.isNone_iff_eq_none]

/-- **The elements of the mdoc**: in the default namespace the claims that are put there, before the
defaults; in any other the defaults. -/
theorem lookup_addClaimsToIssuer (ns element : String) :
    (elementsOf (addClaimsToIssuer fields defaultNamespace claims) ns).lookup element =
      if ns = defaultNamespace then ((defaultNamespaceClaims fields claims).lookup element).or
        ((elementsOf (buildClaimsByNamespace fields) ns).lookup element)
      else (elementsOf (buildClaimsByNamespace fields) ns).lookup element := by
  have hnodup := nodup_buildClaimsByNamespace fields
  unfold addClaimsToIssuer
  dsimp only
  by_cases hkept : (defaultNamespaceClaims fields claims).isEmpty = true
  · rw [if_pos hkept, elementsOf_filter _ _ hnodup, List.isEmpty_iff.mp hkept]
    split <;> rfl
  · rw [if_neg hkept, elementsOf_filter _ _ (nodup_putNamespace _ _ hnodup),
      elementsOf_putNamespace]
    split
    · rename_i h
      rw [lookup_spread, h]
    · rfl

theorem lookup_of_kept {name : String} (h : Kept fields claims name) :
    (elementsOf (addClaimsToIssuer fields defaultNamespace claims) defaultNamespace).lookup name =
      claims.lookup name := by
  obtain ⟨hnone, hsome⟩ := h
  rw [lookup_addClaimsToIssuer, if_pos rfl, lookup_defaultNamespaceClaims, if_pos hnone]
  obtain ⟨value, hvalue⟩ := Option.isSome_iff_exists.mp hsome
  rw [hvalue]
  rfl

theorem lookup_of_not_kept {ns name : String}
    (h : ¬(ns = defaultNamespace ∧ Kept fields claims name)) :
    (elementsOf (addClaimsToIssuer fields defaultNamespace claims) ns).lookup name =
      (elementsOf (buildClaimsByNamespace fields) ns).lookup name := by
  rw [lookup_addClaimsToIssuer]
  split
  · rename_i hns
    have hnone : (defaultNamespaceClaims fields claims).lookup name = none := by
      rw [lookup_defaultNamespaceClaims]
      split
      · rename_i hfree
        rw [← Option.not_isSome_iff_eq_none]
        exact fun hsome => h ⟨hns, hfree, hsome⟩
      · rfl
    rw [hnone]
    rfl
  · rfl

end Mdoc

namespace Mdoc

/-! ## A default that replaces a claim -/

def familyName (defaultValue : Option Json) : ClaimFieldDefinition :=
  .field [.name "ns", .name "family_name"] false none defaultValue []

end Mdoc

end Eudiplo
