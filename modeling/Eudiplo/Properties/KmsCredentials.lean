import Eudiplo.Kms.Secrets
import Eudiplo.Shared.Results

/-!
# What becomes of the credentials of a KMS configuration

A redacted configuration shows only where a credential is (`secretsOf` lists them).  Restored, it
has the stored credentials again, unless one of them is the marker itself; and a redacted credential
of any update becomes the one that is stored at its place of the provider with the same id and type.
-/

namespace Eudiplo

open Results Portability

namespace KmsSecrets

/-! ## Credentials -/

mutual

def secretsOf (path : List PathKey) : Json → List (List PathKey × Json)
  | .arr items => secretItems path 0 items
  | .obj members => secretMembers path members
  | _ => []

def secretItems (path : List PathKey) (index : Nat) : List Json → List (List PathKey × Json)
  | [] => []
  | item :: items =>
    secretsOf (path ++ [.index index]) item ++ secretItems path (index + 1) items

def secretMembers (path : List PathKey) : List (String × Json) → List (List PathKey × Json)
  | [] => []
  | (key, item) :: members =>
    (if isSecretPath (path ++ [.key key]) then [(path ++ [.key key], item)]
      else secretsOf (path ++ [.key key]) item) ++ secretMembers path members

end

def replaceAll (f : Json → List PathKey → Json) (path : List PathKey) (value : Json) : Json :=
  Id.run (mapSecrets (fun secret path => pure (f secret path)) path value)

def replaceItems (f : Json → List PathKey → Json) (path : List PathKey) (index : Nat)
    (items : List Json) : List Json :=
  Id.run (mapSecretItems (fun secret path => pure (f secret path)) path index items)

def replaceMembers (f : Json → List PathKey → Json) (path : List PathKey)
    (members : List (String × Json)) : List (String × Json) :=
  Id.run (mapSecretMembers (fun secret path => pure (f secret path)) path members)

section Walk

variable {f : Json → List PathKey → Json} {path : List PathKey}

theorem replaceItems_cons (index : Nat) (item : Json) (items : List Json) :
    replaceItems f path index (item :: items) =
      replaceAll f (path ++ [.index index]) item :: replaceItems f path (index + 1) items := rfl

theorem replaceMembers_cons (key : String) (item : Json) (members : List (String × Json)) :
    replaceMembers f path ((key, item) :: members) =
      (key, if isSecretPath (path ++ [.key key]) then f item (path ++ [.key key])
        else replaceAll f (path ++ [.key key]) item) :: replaceMembers f path members := by
  unfold replaceMembers
  rw [mapSecretMembers]
  split
  · rfl
  · rfl

variable {m : Type → Type} [Monad m]

mutual

theorem mapSecrets_replaceAll (g : Json → List PathKey → m Json) (v : Json) (path : List PathKey) :
    mapSecrets g path (replaceAll f path v) =
      mapSecrets (fun secret path => g (f secret path) path) path v := by
  cases v with
  | arr items =>
    show mapSecrets g path (.arr (replaceItems f path 0 items)) = _
    rw [mapSecrets, mapSecrets, mapSecretItems_replaceItems g items path 0]
  | obj members =>
    show mapSecrets g path (.obj (replaceMembers f path members)) = _
    rw [mapSecrets, mapSecrets, mapSecretMembers_replaceMembers g members path]
  | null => rfl
  | bool b => rfl
  | num m e => rfl
  | str s => rfl

theorem mapSecretItems_replaceItems (g : Json → List PathKey → m Json) (items : List Json)
    (path : List PathKey) (index : Nat) :
    mapSecretItems g path index (replaceItems f path index items) =
      mapSecretItems (fun secret path => g (f secret path) path) path index items := by
  cases items with
  | nil => rfl
  | cons item items =>
    rw [replaceItems_cons, mapSecretItems, mapSecretItems,
      mapSecrets_replaceAll g item (path ++ [PathKey.index index]),
      mapSecretItems_replaceItems g items path (index + 1)]

theorem mapSecretMembers_replaceMembers (g : Json → List PathKey → m Json)
    (members : List (String × Json)) (path : List PathKey) :
    mapSecretMembers g path (replaceMembers f path members) =
      mapSecretMembers (fun secret path => g (f secret path) path) path members := by
  match members with
  | [] => rfl
  | (key, item) :: members =>
    rw [replaceMembers_cons, mapSecretMembers, mapSecretMembers,
      mapSecretMembers_replaceMembers g members path]
    by_cases hsecret : isSecretPath (path ++ [.key key]) = true
    · rw [if_pos hsecret, if_pos hsecret, if_pos hsecret]
    · rw [if_neg hsecret, if_neg hsecret, if_neg hsecret,
        mapSecrets_replaceAll g item (path ++ [PathKey.key key])]

end

mutual

theorem mapSecrets_congr {g g' : Json → List PathKey → m Json} (v : Json) (path : List PathKey)
    (h : ∀ secret ∈ secretsOf path v, g secret.2 secret.1 = g' secret.2 secret.1) :
    mapSecrets g path v = mapSecrets g' path v := by
  cases v with
  | arr items => rw [mapSecrets, mapSecrets, mapSecretItems_congr items path 0 h]
  | obj members => rw [mapSecrets, mapSecrets, mapSecretMembers_congr members path h]
  | null => rfl
  | bool b => rfl
  | num m e => rfl
  | str s => rfl

theorem mapSecretItems_congr {g g' : Json → List PathKey → m Json} (items : List Json)
    (path : List PathKey) (index : Nat)
    (h : ∀ secret ∈ secretItems path index items, g secret.2 secret.1 = g' secret.2 secret.1) :
    mapSecretItems g path index items = mapSecretItems g' path index items := by
  cases items with
  | nil => rfl
  | cons item items =>
    rw [mapSecretItems, mapSecretItems,
      mapSecrets_congr item _ fun secret hsecret => h secret (List.mem_append_left _ hsecret),
      mapSecretItems_congr items path _ fun secret hsecret =>
        h secret (List.mem_append_right _ hsecret)]

theorem mapSecretMembers_congr {g g' : Json → List PathKey → m Json}
    (members : List (String × Json)) (path : List PathKey)
    (h : ∀ secret ∈ secretMembers path members, g secret.2 secret.1 = g' secret.2 secret.1) :
    mapSecretMembers g path members = mapSecretMembers g' path members := by
  match members with
  | [] => rfl
  | (key, item) :: members =>
    rw [mapSecretMembers, mapSecretMembers,
      mapSecretMembers_congr members path fun secret hsecret =>
        h secret (List.mem_append_right _ hsecret)]
    by_cases hpath : isSecretPath (path ++ [.key key]) = true
    · have hitem := h (path ++ [.key key], item) (List.mem_append_left _ (by
        rw [if_pos hpath]
        exact List.mem_singleton_self _))
      rw [if_pos hpath, if_pos hpath, hitem]
    · rw [if_neg hpath, if_neg hpath, mapSecrets_congr item _ fun secret hsecret =>
        h secret (List.mem_append_left _ (by rwa [if_neg hpath]))]

end

mutual

theorem mapSecrets_ok (v : Json) (path : List PathKey) :
    mapSecrets (fun secret _ => (.ok secret : Except String Json)) path v = .ok v := by
  cases v with
  | arr items =>
    rw [mapSecrets, mapSecretItems_ok items path 0]
    rfl
  | obj members =>
    rw [mapSecrets, mapSecretMembers_ok members path]
    rfl
  | null => rfl
  | bool b => rfl
  | num m e => rfl
  | str s => rfl

theorem mapSecretItems_ok (items : List Json) (path : List PathKey) (index : Nat) :
    mapSecretItems (fun secret _ => (.ok secret : Except String Json)) path index items =
      .ok items := by
  cases items with
  | nil => rfl
  | cons item items =>
    rw [mapSecretItems, mapSecrets_ok item _, mapSecretItems_ok items path _]
    rfl

theorem mapSecretMembers_ok (members : List (String × Json)) (path : List PathKey) :
    mapSecretMembers (fun secret _ => (.ok secret : Except String Json)) path members =
      .ok members := by
  match members with
  | [] => rfl
  | (key, item) :: members =>
    rw [mapSecretMembers, mapSecretMembers_ok members path]
    split
    · rfl
    · rw [mapSecrets_ok item _]
      rfl

end

/-- What a walk that returns did to each credential. -/
def ReplacedBy (g : Json → List PathKey → Except String Json)
    (before after : List PathKey × Json) : Prop :=
  after.1 = before.1 ∧ g before.2 before.1 = .ok after.2

mutual

/-- **A walk that returns** has replaced the credentials, and nothing else. -/
theorem mapSecrets_spec {g : Json → List PathKey → Except String Json} {r : Json} (c : Json)
    (v : Json) (path : List PathKey) (h : mapSecrets g path v = .ok r) :
    List.Forall₂ (ReplacedBy g) (secretsOf path v) (secretsOf path r) ∧
      replaceAll (fun _ _ => c) path r = replaceAll (fun _ _ => c) path v := by
  cases v with
  | arr items =>
    obtain ⟨items', hitems, h⟩ := bind_eq_ok.mp h
    obtain rfl := Except.ok.inj h
    obtain ⟨hsecrets, hframe⟩ := mapSecretItems_spec c items path 0 hitems
    exact ⟨hsecrets, congrArg Json.arr hframe⟩
  | obj members =>
    obtain ⟨members', hmembers, h⟩ := bind_eq_ok.mp h
    obtain rfl := Except.ok.inj h
    obtain ⟨hsecrets, hframe⟩ := mapSecretMembers_spec c members path hmembers
    exact ⟨hsecrets, congrArg Json.obj hframe⟩
  | null => obtain rfl := Except.ok.inj h; exact ⟨.nil, rfl⟩
  | bool b => obtain rfl := Except.ok.inj h; exact ⟨.nil, rfl⟩
  | num m e => obtain rfl := Except.ok.inj h; exact ⟨.nil, rfl⟩
  | str s => obtain rfl := Except.ok.inj h; exact ⟨.nil, rfl⟩

theorem mapSecretItems_spec {g : Json → List PathKey → Except String Json} {r : List Json}
    (c : Json) (items : List Json) (path : List PathKey) (index : Nat)
    (h : mapSecretItems g path index items = .ok r) :
    List.Forall₂ (ReplacedBy g) (secretItems path index items) (secretItems path index r) ∧
      replaceItems (fun _ _ => c) path index r = replaceItems (fun _ _ => c) path index items := by
  cases items with
  | nil => obtain rfl := Except.ok.inj h; exact ⟨.nil, rfl⟩
  | cons item items =>
    obtain ⟨item', hitem, h⟩ := bind_eq_ok.mp h
    obtain ⟨items', hitems, h⟩ := bind_eq_ok.mp h
    obtain rfl := Except.ok.inj h
    obtain ⟨hsecrets, hframe⟩ := mapSecrets_spec c item _ hitem
    obtain ⟨hsecrets', hframe'⟩ := mapSecretItems_spec c items path _ hitems
    exact ⟨List.rel_append hsecrets hsecrets', congrArg₂ List.cons hframe hframe'⟩

theorem mapSecretMembers_spec {g : Json → List PathKey → Except String Json}
    {r : List (String × Json)} (c : Json) (members : List (String × Json)) (path : List PathKey)
    (h : mapSecretMembers g path members = .ok r) :
    List.Forall₂ (ReplacedBy g) (secretMembers path members) (secretMembers path r) ∧
      replaceMembers (fun _ _ => c) path r = replaceMembers (fun _ _ => c) path members := by
  match members with
  | [] => obtain rfl := Except.ok.inj h; exact ⟨.nil, rfl⟩
  | (key, item) :: members =>
    rw [mapSecretMembers] at h
    by_cases hpath : isSecretPath (path ++ [PathKey.key key]) = true
    · rw [if_pos hpath] at h
      obtain ⟨item', hitem, h⟩ := bind_eq_ok.mp h
      obtain ⟨members', hmembers, h⟩ := bind_eq_ok.mp h
      obtain rfl := Except.ok.inj h
      obtain ⟨hsecrets, hframe⟩ := mapSecretMembers_spec c members path hmembers
      rw [secretMembers, secretMembers, replaceMembers_cons, replaceMembers_cons, hframe,
        if_pos hpath, if_pos hpath,
        if_pos hpath, if_pos hpath]
      exact ⟨.cons ⟨rfl, hitem⟩ hsecrets, rfl⟩
    · rw [if_neg hpath] at h
      obtain ⟨item', hitem, h⟩ := bind_eq_ok.mp h
      obtain ⟨members', hmembers, h⟩ := bind_eq_ok.mp h
      obtain rfl := Except.ok.inj h
      obtain ⟨hsecrets, hframe⟩ := mapSecrets_spec c item _ hitem
      obtain ⟨hsecrets', hframe'⟩ := mapSecretMembers_spec c members path hmembers
      rw [secretMembers, secretMembers, replaceMembers_cons, replaceMembers_cons, hframe',
        if_neg hpath, if_neg hpath,
        if_neg hpath, if_neg hpath, hframe]
      exact ⟨List.rel_append hsecrets hsecrets', rfl⟩

end

end Walk

/-! ## Places -/

/-- **Where a credential can be**: below a provider. -/
theorem isSecretPath_shape {path : List PathKey} (h : isSecretPath path = true) :
    ∃ first index last field, path = first :: index :: last :: field ∧
      first.text = "providers" := by
  have hpatterns : kmsSecretPaths.map (fun pattern => segments pattern.toList) =
      [["providers".toList, ['*'], "vaultToken".toList],
        ["providers".toList, ['*'], "secretAccessKey".toList],
        ["providers".toList, ['*'], "pin".toList],
        ["providers".toList, ['*'], "auth".toList, "token".toList],
        ["providers".toList, ['*'], "auth".toList, "clientSecret".toList],
        ["providers".toList, ['*'], "clientSecret".toList],
        ["providers".toList, ['*'], "sad".toList],
        ["providers".toList, ['*'], "authorizeAuthData".toList, ['*'], "value".toList]] := rfl
  have hany : ∃ rest, rest ≠ [] ∧
      pathMatches ("providers".toList :: ['*'] :: rest) (path.map fun key => key.text.toList) := by
    obtain ⟨pattern, hpattern, hmatches⟩ := List.any_eq_true.mp h
    have hmem : segments pattern.toList ∈ kmsSecretPaths.map fun pattern =>
        segments pattern.toList := List.mem_map_of_mem hpattern
    rw [hpatterns] at hmem
    simp only [List.mem_cons, List.not_mem_nil, or_false] at hmem
    obtain hmem | hmem | hmem | hmem | hmem | hmem | hmem | hmem := hmem <;>
      exact ⟨_, List.cons_ne_nil _ _, hmem ▸ hmatches⟩
  obtain ⟨rest, hne, hmatches⟩ := hany
  clear h hpatterns
  match path, hmatches with
  | [], hmatches => simp [pathMatches] at hmatches
  | [first], hmatches => simp [pathMatches] at hmatches
  | [first, index], hmatches =>
    cases rest with
    | nil => exact absurd rfl hne
    | cons part rest => simp [pathMatches] at hmatches
  | first :: index :: last :: field, hmatches =>
    refine ⟨first, index, last, field, rfl, ?_⟩
    simp only [List.map_cons, pathMatches, Bool.and_eq_true, Bool.or_eq_true, beq_iff_eq]
      at hmatches
    obtain hstar | hfirst := hmatches.1
    · exact absurd hstar (by decide)
    · exact (String.toList_inj.mp hfirst).symm

theorem isSecretPath_identity (i : Nat) :
    isSecretPath ([PathKey.key "providers", PathKey.index i] ++ [PathKey.key "id"]) = false ∧
      isSecretPath ([PathKey.key "providers", PathKey.index i] ++ [PathKey.key "type"]) =
        false := by
  constructor <;> simp [isSecretPath, kmsSecretPaths, segments, pathMatches, PathKey.text]

theorem field?_cons {key name : String} {item : Json} {members : List (String × Json)} :
    (Json.obj ((key, item) :: members)).field? name =
      if key = name then some item else (Json.obj members).field? name := by
  unfold Json.field?
  dsimp only
  rw [List.find?_cons]
  by_cases h : key = name
  · rw [if_pos h, beq_iff_eq.mpr h]
    rfl
  · rw [if_neg h, beq_eq_false_iff_ne.mpr h]

theorem field?_of_mem {key : String} {item : Json} {members : List (String × Json)}
    (hdistinct : (members.map (·.1)).Nodup) (h : (key, item) ∈ members) :
    (Json.obj members).field? key = some item := by
  induction members with
  | nil => cases h
  | cons member members ih =>
    obtain ⟨name, other⟩ := member
    rw [List.map_cons, List.nodup_cons] at hdistinct
    rw [field?_cons]
    obtain heq | hmem := List.mem_cons.mp h
    · obtain ⟨rfl, rfl⟩ := Prod.mk.inj heq
      exact if_pos rfl
    · have hne : name ≠ key := fun heq => hdistinct.1 (List.mem_map.mpr ⟨_, hmem, heq.symm⟩)
      rw [if_neg hne]
      exact ih hdistinct.2 hmem

mutual

theorem secretsOf_at? (v : Json) (path : List PathKey) {secret : List PathKey × Json}
    (hdistinct : Distinct v) (h : secret ∈ secretsOf path v) : isSecretPath secret.1 = true ∧
      ∃ field, secret.1 = path ++ field ∧ at? field v = some secret.2 := by
  cases v with
  | arr items =>
    obtain ⟨hpath, j, item, field, hitem, heq, hat⟩ := secretItems_at? items path 0 hdistinct h
    rw [Nat.zero_add] at heq
    refine ⟨hpath, _, heq, ?_⟩
    rw [at?, hitem]
    exact hat
  | obj members =>
    obtain ⟨hpath, key, item, field, hitem, heq, hat⟩ :=
      secretMembers_at? members path hdistinct.2 h
    refine ⟨hpath, _, heq, ?_⟩
    rw [at?, PathKey.text, field?_of_mem hdistinct.1 hitem]
    exact hat
  | null => cases h
  | bool b => cases h
  | num m e => cases h
  | str s => cases h

theorem secretItems_at? (items : List Json) (path : List PathKey) (index : Nat)
    {secret : List PathKey × Json} (hdistinct : DistinctItems items)
    (h : secret ∈ secretItems path index items) : isSecretPath secret.1 = true ∧
      ∃ j item field, items[j]? = some item ∧
        secret.1 = path ++ (PathKey.index (index + j) :: field) ∧
        at? field item = some secret.2 := by
  cases items with
  | nil => cases h
  | cons item items =>
    obtain hmem | hmem := List.mem_append.mp h
    · obtain ⟨hpath, field, heq, hat⟩ := secretsOf_at? item _ hdistinct.1 hmem
      exact ⟨hpath, 0, item, field, rfl, by rw [heq, List.append_assoc]; rfl, hat⟩
    · obtain ⟨hpath, j, other, field, hother, heq, hat⟩ :=
        secretItems_at? items path (index + 1) hdistinct.2 hmem
      refine ⟨hpath, j + 1, other, field, hother, ?_, hat⟩
      rw [heq, Nat.add_assoc, Nat.add_comm 1 j]

theorem secretMembers_at? (members : List (String × Json)) (path : List PathKey)
    {secret : List PathKey × Json} (hdistinct : DistinctMembers members)
    (h : secret ∈ secretMembers path members) : isSecretPath secret.1 = true ∧
      ∃ key item field, (key, item) ∈ members ∧ secret.1 = path ++ (PathKey.key key :: field) ∧
        at? field item = some secret.2 := by
  match members with
  | [] => cases h
  | (key, item) :: members =>
    rw [secretMembers] at h
    obtain hmem | hmem := List.mem_append.mp h
    · split at hmem
      · rename_i hpath
        obtain rfl := List.mem_singleton.mp hmem
        exact ⟨hpath, key, item, [], List.mem_cons_self, rfl, rfl⟩
      · obtain ⟨hpath, field, heq, hat⟩ := secretsOf_at? item _ hdistinct.1 hmem
        exact ⟨hpath, key, item, field, List.mem_cons_self, by rw [heq, List.append_assoc]; rfl,
          hat⟩
    · obtain ⟨hpath, name, other, field, hother, heq, hat⟩ :=
        secretMembers_at? members path hdistinct.2 hmem
      exact ⟨hpath, name, other, field, List.mem_cons_of_mem _ hother, heq, hat⟩

end

/-- **A credential of a configuration is at a place of a provider.** -/
theorem secret_of_provider {s : StoredConfig} {secret : List PathKey × Json}
    (h : secret ∈ secretsOf [] s.value) : ∃ first i field provider,
      secret.1 = first :: PathKey.index i :: field ∧ first.text = "providers" ∧
      s.providers[i]? = some provider ∧ at? field provider = some secret.2 := by
  obtain ⟨hpath, path, heq, hat⟩ := secretsOf_at? s.value [] s.distinct h
  rw [List.nil_append] at heq
  obtain ⟨first, index, last, field, hshape, hfirst⟩ := isSecretPath_shape hpath
  rw [← heq, hshape] at hat
  obtain ⟨members, hmembers⟩ : ∃ members, s.value = .obj members := by
    have hlisted := s.listed
    cases hvalue : s.value with
    | obj members => exact ⟨members, rfl⟩
    | null => rw [hvalue] at hlisted; cases hlisted
    | bool b => rw [hvalue] at hlisted; cases hlisted
    | num m e => rw [hvalue] at hlisted; cases hlisted
    | str t => rw [hvalue] at hlisted; cases hlisted
    | arr items => rw [hvalue] at hlisted; cases hlisted
  rw [hmembers, at?, hfirst, ← hmembers, s.listed, Option.bind_some] at hat
  cases index with
  | key name => cases hat
  | index i =>
    rw [at?] at hat
    obtain ⟨provider, hprovider, hat⟩ := Option.bind_eq_some_iff.mp hat
    exact ⟨first, i, last :: field, provider, hshape, hfirst, hprovider, hat⟩

/-! ## Restoring what was redacted -/

section Restore

variable {f : Json → List PathKey → Json}

theorem field?_replaceMembers {path : List PathKey} {name : String}
    {members : List (String × Json)} (hpath : isSecretPath (path ++ [PathKey.key name]) = false) :
    (Json.obj (replaceMembers f path members)).field? name =
      ((Json.obj members).field? name).map (replaceAll f (path ++ [PathKey.key name])) := by
  induction members with
  | nil => rfl
  | cons member members ih =>
    obtain ⟨key, item⟩ := member
    rw [replaceMembers_cons, field?_cons, field?_cons]
    by_cases hkey : key = name
    · subst hkey
      rw [if_pos rfl, if_pos rfl, if_neg (Bool.eq_false_iff.mp hpath)]
      rfl
    · rw [if_neg hkey, if_neg hkey, ih]

theorem getElem?_replaceItems {path : List PathKey} (index i : Nat) (items : List Json) :
    (replaceItems f path index items)[i]? =
      items[i]?.map (replaceAll f (path ++ [PathKey.index (index + i)])) := by
  induction items generalizing index i with
  | nil => rfl
  | cons item items ih =>
    rw [replaceItems_cons]
    cases i with
    | zero => rfl
    | succ i =>
      rw [List.getElem?_cons_succ, List.getElem?_cons_succ, ih, Nat.add_assoc, Nat.add_comm 1 i]

theorem str?_replaceAll (path : List PathKey) (v : Json) :
    (replaceAll f path v).str? = v.str? := by
  cases v <;> rfl

theorem text_replaceAll {path : List PathKey} {name : String} (provider : Json)
    (hpath : isSecretPath (path ++ [PathKey.key name]) = false) :
    ((replaceAll f path provider).field? name).bind Json.str? =
      (provider.field? name).bind Json.str? := by
  cases provider with
  | obj members =>
    show ((Json.obj (replaceMembers f path members)).field? name).bind Json.str? = _
    rw [field?_replaceMembers hpath]
    cases (Json.obj members).field? name with
    | none => rfl
    | some v => exact str?_replaceAll _ v
  | null => rfl
  | bool b => rfl
  | num m e => rfl
  | str s => rfl
  | arr items => rfl

theorem at?_replaceAll {s : StoredConfig} {first : PathKey} {i : Nat} {provider : Json}
    (hfirst : first.text = "providers") (hprovider : s.providers[i]? = some provider) :
    ∃ provider', at? [first, PathKey.index i] (replaceAll f [] s.value) = some provider' ∧
      idOf provider' = idOf provider ∧ typeOf provider' = typeOf provider := by
  have hlisted := s.listed
  cases hvalue : s.value with
  | obj members =>
    rw [hvalue] at hlisted
    refine ⟨replaceAll f [PathKey.key "providers", PathKey.index i] provider, ?_, ?_, ?_⟩
    · show at? [first, PathKey.index i] (.obj (replaceMembers f [] members)) = _
      have hproviders : isSecretPath ([] ++ [PathKey.key "providers"]) = false := rfl
      rw [at?, hfirst, field?_replaceMembers hproviders, hlisted]
      show at? [PathKey.index i] (.arr (replaceItems f [PathKey.key "providers"] 0 s.providers)) = _
      rw [at?, getElem?_replaceItems, hprovider, Nat.zero_add]
      rfl
    · exact text_replaceAll provider (isSecretPath_identity i).1
    · exact text_replaceAll provider (isSecretPath_identity i).2
  | null => rw [hvalue] at hlisted; cases hlisted
  | bool b => rw [hvalue] at hlisted; cases hlisted
  | num m e => rw [hvalue] at hlisted; cases hlisted
  | str t => rw [hvalue] at hlisted; cases hlisted
  | arr items => rw [hvalue] at hlisted; cases hlisted

theorem eq_of_idOf {s : StoredConfig} {provider other : Json} (h : provider ∈ s.providers)
    (h' : other ∈ s.providers) (hid : idOf other = idOf provider) : other = provider :=
  List.inj_on_of_nodup_map s.unique h' h hid

theorem storedProvider_eq_some {stored : Option StoredConfig} {id : Option String}
    {saved : Json} : storedProvider stored id = some saved ↔
      ∃ s, stored = some s ∧ saved ∈ s.providers ∧ idOf saved = id := by
  unfold storedProvider
  cases stored with
  | none => exact iff_of_false (fun h => (nomatch h)) fun ⟨_, h, _⟩ => (nomatch h)
  | some s =>
    simp only [Option.map_some, Option.getD_some, Option.some.injEq, exists_eq_left']
    constructor
    · intro h
      have hfound := List.find?_some h
      rw [Bool.and_eq_true, beq_iff_eq] at hfound
      exact ⟨List.mem_reverse.mp (List.mem_of_find?_eq_some h), hfound.1⟩
    · rintro ⟨hsaved, rfl⟩
      have hsome := (s.identified saved hsaved).1
      cases hfound : s.providers.reverse.find? fun provider =>
          idOf provider == idOf saved && (idOf saved).isSome with
      | none =>
        have hnot := List.find?_eq_none.mp hfound saved (List.mem_reverse.mpr hsaved)
        exact absurd (by rw [beq_self_eq_true, hsome]; rfl) hnot
      | some other =>
        have hmem := List.mem_reverse.mp (List.mem_of_find?_eq_some hfound)
        have hother := List.find?_some hfound
        rw [Bool.and_eq_true, beq_iff_eq] at hother
        exact congrArg some (eq_of_idOf hsaved hmem hother.1)

theorem restoreSecret_redacted {s : StoredConfig} {keep : Bool} {secret : List PathKey × Json}
    (h : secret ∈ secretsOf [] s.value) (hmarker : isRedacted secret.2 = false) :
    restoreSecret (redactKmsConfig keep s.value) (some s) (redactSecret keep secret.2) secret.1 =
      .ok secret.2 := by
  obtain ⟨first, i, field, provider, hpath, hfirst, hprovider, hat⟩ := secret_of_provider h
  have hredact : redactSecret keep secret.2 = secret.2 ∨
      redactSecret keep secret.2 = .str kmsRedactedSecret := by
    unfold redactSecret
    split
    · split
      · exact .inl rfl
      · exact .inr rfl
    · exact .inr rfl
  obtain hkept | hredacted := hredact
  · rw [hkept]
    unfold restoreSecret
    rw [hmarker]
    rfl
  · obtain ⟨provider', hprovider', hid, htype⟩ :=
      at?_replaceAll (f := fun secret _ => redactSecret keep secret) hfirst hprovider
    have hstored : storedProvider (some s) (idOf provider') = some provider :=
      storedProvider_eq_some.mpr ⟨s, rfl, List.mem_of_getElem? hprovider, hid.symm⟩
    have hmarked : isRedacted (.str kmsRedactedSecret) = true := rfl
    have hupdate : at? [first, PathKey.index i] (redactKmsConfig keep s.value) = some provider' :=
      hprovider'
    rw [hredacted, hpath]
    unfold restoreSecret
    rw [hmarked]
    simp only [hupdate, Option.getD_some, hstored, Option.bind_some, htype, hat, if_true,
      hmarker]
    rfl

end Restore

/-! ## The claim -/

/-- A placeholder names a credential without containing it. -/
def IsPlaceholder (secret : Json) : Prop :=
  ∃ text, secret = .str text ∧ isEnvPlaceholder text = true

theorem redactSecret_congr {keep : Bool} {secret secret' : Json}
    (h : keep = true → IsPlaceholder secret ∨ IsPlaceholder secret' → secret' = secret) :
    redactSecret keep secret' = redactSecret keep secret := by
  have hmarker : ∀ secret : Json, ¬(keep = true ∧ IsPlaceholder secret) →
      redactSecret keep secret = .str kmsRedactedSecret := by
    intro secret hnot
    unfold redactSecret
    split
    · rename_i text
      split
      · rename_i hcond
        rw [Bool.and_eq_true] at hcond
        exact absurd ⟨hcond.1, text, rfl, hcond.2⟩ hnot
      · rfl
    · rfl
  by_cases hplaceholder : keep = true ∧ (IsPlaceholder secret ∨ IsPlaceholder secret')
  · rw [h hplaceholder.1 hplaceholder.2]
  · rw [hmarker secret fun hk => hplaceholder ⟨hk.1, .inl hk.2⟩,
      hmarker secret' fun hk => hplaceholder ⟨hk.1, .inr hk.2⟩]

/-- **Restored from the own provider**: a credential is the one of the update or, if that is
redacted, the one that is stored at its place of the provider with the same id and type. -/
def RestoredFrom (update : Json) (stored : Option StoredConfig)
    (before after : List PathKey × Json) : Prop :=
  after.1 = before.1 ∧
    if isRedacted before.2 = true then ∃ first index field provider s saved,
      before.1 = first :: index :: field ∧ at? [first, index] update = some provider ∧
      stored = some s ∧ saved ∈ s.providers ∧
      idOf saved = idOf provider ∧ typeOf saved = typeOf provider ∧
      (∀ other ∈ s.providers, idOf other = idOf provider → other = saved) ∧
      at? field saved = some after.2 ∧ isRedacted after.2 = false
    else after.2 = before.2

/-- **A restored update**: all but the credentials is as in the update. -/
structure Restored (update : Json) (stored : Option StoredConfig) (restored : Json) : Prop where
  frame : redactKmsConfig false restored = redactKmsConfig false update
  credentials : List.Forall₂ (RestoredFrom update stored) (secretsOf [] update)
    (secretsOf [] restored)

theorem redactKmsConfig_false (config : Json) : redactKmsConfig false config =
    replaceAll (fun _ _ => .str kmsRedactedSecret) [] config := by
  refine mapSecrets_congr config [] fun secret _ => ?_
  unfold redactSecret
  split
  · rfl
  · rfl

theorem restoredFrom_of_ok {update : Json} {stored : Option StoredConfig}
    {before after : List PathKey × Json}
    (h : ReplacedBy (restoreSecret update stored) before after) :
    RestoredFrom update stored before after := by
  obtain ⟨hpath, h⟩ := h
  refine ⟨hpath, ?_⟩
  unfold restoreSecret at h
  split at h
  · rename_i hkept
    rw [if_neg (by simpa using hkept)]
    exact (Except.ok.inj h).symm
  · rename_i hmarked
    rw [if_pos (by simpa using hmarked)]
    split at h
    · rename_i first index field heq
      dsimp only at h
      split at h
      · cases h
      · rename_i secret hsecret
        obtain ⟨saved, hsaved, hsecret⟩ := Option.bind_eq_some_iff.mp hsecret
        obtain ⟨s, hs, hmem, hid⟩ := storedProvider_eq_some.mp hsaved
        split at hsecret
        · rename_i htype
          split at h
          · cases h
          · rename_i hfresh
            obtain rfl := Except.ok.inj h
            cases hprovider : at? [first, index] update with
            | none =>
              rw [hprovider] at hid
              have hsome := (s.identified saved hmem).1
              rw [hid] at hsome
              cases hsome
            | some provider =>
              rw [hprovider] at hid htype
              exact ⟨first, index, field, provider, s, saved, heq, hprovider, hs, hmem, hid, htype,
                fun other hother hsame => eq_of_idOf hmem hother (hsame.trans hid.symm),
                hsecret, Bool.eq_false_iff.mpr hfresh⟩
        · cases hsecret
    · cases h

theorem restored_of_ok {update : Json} {stored : Option StoredConfig} {restored : Json}
    (h : restoreKmsSecrets update stored = .ok restored) : Restored update stored restored := by
  obtain ⟨hsecrets, hframe⟩ := mapSecrets_spec (.str kmsRedactedSecret) update [] h
  refine ⟨?_, hsecrets.imp fun _ _ => restoredFrom_of_ok⟩
  rw [redactKmsConfig_false, redactKmsConfig_false, hframe]

theorem restore_redacted (s : StoredConfig) (keep : Bool)
    (h : ∀ secret ∈ secretsOf [] s.value, isRedacted secret.2 = false) :
    restoreKmsSecrets (redactKmsConfig keep s.value) (some s) = .ok s.value := by
  have hwalk := mapSecrets_replaceAll (f := fun secret _ => redactSecret keep secret)
    (restoreSecret (redactKmsConfig keep s.value) (some s)) s.value []
  refine hwalk.trans ((mapSecrets_congr s.value [] fun secret hsecret => ?_).trans
    (mapSecrets_ok s.value []))
  exact restoreSecret_redacted hsecret (h secret hsecret)

end KmsSecrets

open KmsSecrets

/-- **Credentials are redacted and restored**: a redacted configuration does not depend on them but
for placeholders; what was redacted of a stored one is restored, if none of its credentials is the
marker; and an update fails and leaves the file, or is restored from the own providers. -/
theorem kms_credentials :
    (∀ (keep : Bool) (config : Json) (f : Json → List PathKey → Json),
      (∀ secret ∈ secretsOf [] config, keep = true →
        IsPlaceholder secret.2 ∨ IsPlaceholder (f secret.2 secret.1) →
          f secret.2 secret.1 = secret.2) →
      redactKmsConfig keep (replaceAll f [] config) = redactKmsConfig keep config) ∧
    (∀ (s : StoredConfig) (keep : Bool),
      (∀ secret ∈ secretsOf [] s.value, isRedacted secret.2 = false) →
      restoreKmsSecrets (redactKmsConfig keep s.value) (some s) = .ok s.value) ∧
    ∀ (w : KmsTenantWorld) (file : Option Json) (stored : Option StoredConfig) (update : Json),
      w.getTenantConfig file = .ok stored →
      (∃ message, restoreKmsSecrets update stored = .error message ∧
        updateTenantConfig w file update = (.error (.badRequest message), file)) ∨
      ∃ restored, restoreKmsSecrets update stored = .ok restored ∧
        Restored update stored restored ∧
        updateTenantConfig w file update = saveTenantConfig w file restored := by
  refine ⟨fun keep config f h => ?_, restore_redacted, fun w file stored update hstored => ?_⟩
  · have hwalk := mapSecrets_replaceAll (m := Id) (f := f)
      (fun secret _ => pure (redactSecret keep secret)) config []
    refine hwalk.trans (mapSecrets_congr config [] fun secret hsecret => ?_)
    exact redactSecret_congr (h secret hsecret)
  · unfold updateTenantConfig
    rw [hstored]
    dsimp only
    cases hrestore : restoreKmsSecrets update stored with
    | error message => exact .inl ⟨message, rfl, rfl⟩
    | ok restored => exact .inr ⟨restored, rfl, restored_of_ok hrestore, rfl⟩

namespace KmsSecrets

def vaultConfig (token : String) : StoredConfig where
  value := .obj [("providers", .arr [.obj [("id", .str "main"), ("type", .str "vault"),
    ("vaultToken", .str token)]])]
  distinct := by simp [Distinct, DistinctItems, DistinctMembers]
  providers := [.obj [("id", .str "main"), ("type", .str "vault"), ("vaultToken", .str token)]]
  listed := rfl
  identified := by
    intro provider hprovider
    obtain rfl := List.mem_singleton.mp hprovider
    exact ⟨rfl, rfl⟩
  unique := List.nodup_singleton _

def vaultTenant : KmsTenantWorld where
  configFolder := true
  getTenantConfig := fun _ => .ok (some (vaultConfig "token"))
  validateConfig := .ok
  getEffectiveConfig := .ok

theorem secretsOf_vaultConfig (token : String) : secretsOf [] (vaultConfig token).value =
    [([.key "providers", .index 0, .key "vaultToken"], .str token)] := rfl

end KmsSecrets

/-- A token that is redacted and restored. -/
theorem kms_credentials_vault :
    redactKmsConfig true (replaceAll (fun _ _ => .str "other") [] (vaultConfig "token").value) =
        redactKmsConfig true (vaultConfig "token").value ∧
      restoreKmsSecrets (redactKmsConfig true (vaultConfig "token").value)
        (some (vaultConfig "token")) = .ok (vaultConfig "token").value ∧
      ((∃ message, restoreKmsSecrets (.obj []) (some (vaultConfig "token")) = .error message ∧
        updateTenantConfig vaultTenant none (.obj []) = (.error (.badRequest message), none)) ∨
      ∃ restored, restoreKmsSecrets (.obj []) (some (vaultConfig "token")) = .ok restored ∧
        Restored (.obj []) (some (vaultConfig "token")) restored ∧
        updateTenantConfig vaultTenant none (.obj []) =
          saveTenantConfig vaultTenant none restored) := by
  have hother : ∀ text ∈ ["token", "other"], ¬IsPlaceholder (.str text) := by
    rintro text htext ⟨other, hsame, hplaceholder⟩
    obtain rfl := Json.str.inj hsame
    simp only [List.mem_cons, List.not_mem_nil, or_false] at htext
    obtain rfl | rfl := htext
    · exact absurd hplaceholder (by decide)
    · exact absurd hplaceholder (by decide)
  refine ⟨kms_credentials.1 true _ _ ?_, kms_credentials.2.1 (vaultConfig "token") true ?_,
    kms_credentials.2.2 vaultTenant none _ _ rfl⟩
  · rintro secret hsecret -
    rw [secretsOf_vaultConfig] at hsecret
    obtain rfl := List.mem_singleton.mp hsecret
    rintro (h | h)
    · exact absurd h (hother "token" List.mem_cons_self)
    · exact absurd h (hother "other" (List.mem_cons_of_mem _ List.mem_cons_self))
  · intro secret hsecret
    rw [secretsOf_vaultConfig] at hsecret
    obtain rfl := List.mem_singleton.mp hsecret
    rfl

/-- A stored marker is not restored. -/
theorem not_kms_credentials :
    ¬∀ (s : StoredConfig) (keep : Bool),
      restoreKmsSecrets (redactKmsConfig keep s.value) (some s) = .ok s.value := by
  intro h
  have hfails : ∃ message, restoreKmsSecrets
      (redactKmsConfig false (vaultConfig "<redacted>").value) (some (vaultConfig "<redacted>")) =
        .error message := ⟨_, rfl⟩
  obtain ⟨message, hmessage⟩ := hfails
  cases hmessage.symm.trans (h (vaultConfig "<redacted>") false)

end Eudiplo
