import Eudiplo.Auth.Operations
import Mathlib.Tactic

/-!
# Keycloak and the local mirror

The calls of the Keycloak provider on a store of clients with an owner, a description and roles.
An update without roles takes all roles away in Keycloak alone, and an addition to a client that is
there leaves it the roles it had; where neither happens both agree (`mirror_agrees`).
-/

namespace Eudiplo

open KeycloakClients (toAssign mirrorColumns recreated)
open InternalClients (columnsOf columnsOfUpdate)

namespace KeycloakMirror

structure KcEntry where
  owner : String
  description : Option String
  roles : List String

abbrev Rows := String → Option ClientEntity

structure State where
  kc : String → Option KcEntry
  mirror : Rows

inductive Op where
  | add (tenantId : String) (dto : CreateClient)
  | update (tenantId clientId : String) (dto : UpdateClient)
  | remove (tenantId clientId : String)

def save (rows : Rows) (clientId : String) (columns : ClientColumns) : Rows :=
  Function.update rows clientId
    (some ((rows clientId).elim (columns.row clientId) (·.with columns)))

def findOne (rows : Rows) (tenantId clientId : String) : Option ClientEntity :=
  (rows clientId).filter (·.tenantId == some tenantId)

def update (rows : Rows) (tenantId clientId : String) (columns : ClientColumns) : Rows :=
  (findOne rows tenantId clientId).elim rows
    fun row => Function.update rows clientId (some (row.with columns))

def delete (rows : Rows) (tenantId clientId : String) : Rows :=
  (findOne rows tenantId clientId).elim rows fun _ => Function.update rows clientId none

/-! ## The Keycloak provider -/

/-- `addClient`; none if it throws. -/
def addClient (realm : List String) (tenantId : String) (dto : CreateClient) (s : State) :
    Option State :=
  let roles := toAssign realm dto.roles
  let mirror := save s.mirror dto.clientId (mirrorColumns tenantId dto)
  match s.kc dto.clientId with
  | none =>
    some ⟨Function.update s.kc dto.clientId (some ⟨tenantId, dto.description, roles⟩), mirror⟩
  | some c =>
    if c.owner = tenantId then
      some ⟨Function.update s.kc dto.clientId
        (some ⟨tenantId, dto.description.or c.description, c.roles ++ roles⟩), mirror⟩
    else none

def updateClient (realm : List String) (tenantId clientId : String) (dto : UpdateClient)
    (s : State) : Option State := do
  let client ← findOne s.mirror tenantId clientId
  match s.kc clientId with
  | none =>
    addClient realm tenantId (recreated clientId dto client)
      { s with mirror := delete s.mirror tenantId clientId }
  | some c =>
    let newRoles := dto.roles.getD []
    if c.owner = tenantId then
      some ⟨Function.update s.kc clientId (some { c with
        description := (dto.description.or client.description).or c.description
        roles := c.roles.filter (newRoles.map Role.text).contains ++
          toAssign realm newRoles }),
        update s.mirror tenantId clientId (columnsOfUpdate dto)⟩
    else none

def removeClient (tenantId clientId : String) (s : State) : Option State :=
  let mirror := delete s.mirror tenantId clientId
  match s.kc clientId with
  | none => some ⟨s.kc, mirror⟩
  | some c =>
    if c.owner = tenantId then some ⟨Function.update s.kc clientId none, mirror⟩ else none

def keycloak (realm : List String) : Op → State → Option State
  | .add tenantId dto => addClient realm tenantId dto
  | .update tenantId clientId dto => updateClient realm tenantId clientId dto
  | .remove tenantId clientId => removeClient tenantId clientId

def internal (hash : String) : Op → Rows → Rows
  | .add tenantId dto, rows =>
    save rows dto.clientId (columnsOf tenantId dto hash)
  | .update tenantId clientId dto, rows =>
    update rows tenantId clientId (columnsOfUpdate dto)
  | .remove tenantId clientId, rows => delete rows tenantId clientId

/-! ## Agreement -/

def shown (row : ClientEntity) : ClientEntity := { row with secret := none }

/-- **Keycloak has the owner and the roles of a row**, and its description where it has one. -/
def Backs (c : KcEntry) (row : ClientEntity) : Prop :=
  row.tenantId = some c.owner ∧ (row.description = none ∨ row.description = c.description) ∧
    ∀ name, name ∈ c.roles ↔ name ∈ row.roles.map Role.text

/-- **Keycloak, the mirror and the internal provider agree.** -/
structure Agree (s : State) (rows : Rows) : Prop where
  rows : ∀ id, (s.mirror id).map shown = (rows id).map shown
  backed : ∀ id row, s.mirror id = some row → ∃ c, s.kc id = some c ∧ Backs c row

/-- **An update** keeps in both what it omits, and clears what it names as null. -/
def Keeps (s s' : State) : Op → Prop
  | .update tenantId clientId dto => ∀ row, findOne s.mirror tenantId clientId = some row →
      s'.mirror clientId = some (row.with (columnsOfUpdate dto)) ∧
        (dto.description = none →
          (s'.kc clientId).map (·.description) = (s.kc clientId).map (·.description))
  | _ => True

/-- **Where the provider agrees**: the roles are known to the realm, an update that omits them
finds none, and an addition finds none but those it names. -/
def Meets (realm : List String) (s : State) : Op → Prop
  | .add _ dto => (∀ r ∈ dto.roles, r.text ∈ realm) ∧
      ∀ c, s.kc dto.clientId = some c → ∀ name ∈ c.roles, name ∈ dto.roles.map Role.text
  | .update _ clientId dto => (∀ r ∈ dto.roles.getD [], r.text ∈ realm) ∧
      (dto.roles = none → ∀ c, s.kc clientId = some c → c.roles = [])
  | .remove .. => True

/-- One call that meets the condition and returns, with both providers. -/
def Step (realm : List String) (hash : String) (op : Op) (p q : State × Rows) : Prop :=
  Meets realm p.1 op ∧ keycloak realm op p.1 = some q.1 ∧ q.2 = internal hash op p.2

variable {realm : List String} {hash : String} {op : Op} {p q : State × Rows} {s : State}
  {rows : Rows} {roles : List Role} {name id tenantId : String}

theorem mem_toAssign (h : ∀ r ∈ roles, r.text ∈ realm) :
    name ∈ toAssign realm roles ↔ name ∈ roles.map Role.text := by
  simp only [toAssign, List.mem_filter, List.contains_eq_mem, decide_eq_true_eq,
    and_iff_left_iff_imp]
  intro hname
  obtain ⟨r, hr, rfl⟩ := List.mem_map.mp hname
  exact h r hr

theorem findOne_eq_some {row : ClientEntity} : findOne rows tenantId id = some row ↔
    rows id = some row ∧ row.tenantId = some tenantId := by
  simp [findOne, Option.filter_eq_some_iff]

theorem Agree.update (h : Agree s rows) (id : String) {kc : Option KcEntry}
    {row row' : Option ClientEntity} (hrow : row.map shown = row'.map shown)
    (hbacked : ∀ r, row = some r → ∃ c, kc = some c ∧ Backs c r) :
    Agree ⟨Function.update s.kc id kc, Function.update s.mirror id row⟩
      (Function.update rows id row') := by
  refine ⟨fun other => ?_, fun other r hr => ?_⟩
  · by_cases hid : other = id
    · subst hid
      simpa using hrow
    · simpa [hid] using h.rows other
  · by_cases hid : other = id
    · subst hid
      simpa using hbacked r (by simpa using hr)
    · simpa [hid] using h.backed other r (by simpa [hid] using hr)

theorem Agree.shown (h : Agree s rows) {row' : ClientEntity} (hrow : rows id = some row') :
    ∃ row, s.mirror id = some row ∧ KeycloakMirror.shown row = KeycloakMirror.shown row' := by
  simpa [hrow] using h.rows id

theorem shown_with {row row' : ClientEntity} {columns columns' : ClientColumns}
    (h : shown row = shown row')
    (hcolumns : { columns with secret := none } = { columns' with secret := none }) :
    shown (row.with columns) = shown (row'.with columns') := by
  show (shown row).with { columns with secret := none } =
    (shown row').with { columns' with secret := none }
  rw [h, hcolumns]

theorem backs_saved (tenantId : String) {dto : CreateClient} {old : List String}
    {description : Option String} {row : Option ClientEntity}
    (hknown : ∀ r ∈ dto.roles, r.text ∈ realm)
    (hold : ∀ name ∈ old, name ∈ dto.roles.map Role.text)
    (hrow : ∀ r, row = some r → r.description = none ∨ r.description = description) :
    Backs ⟨tenantId, dto.description.or description,
      old ++ toAssign realm dto.roles⟩
      (row.elim ((mirrorColumns tenantId dto).row dto.clientId)
        (·.with (mirrorColumns tenantId dto))) := by
  have hroles (name : String) : name ∈ old ++ toAssign realm dto.roles ↔
      name ∈ dto.roles.map Role.text := by
    rw [List.mem_append, mem_toAssign hknown]
    exact ⟨fun h => h.elim (hold name) id, .inr⟩
  cases row with
  | none => exact ⟨rfl, by cases h : dto.description <;> simp [h, ClientColumns.row,
      mirrorColumns], hroles⟩
  | some r =>
    refine ⟨rfl, ?_, hroles⟩
    obtain hnone | hsame := hrow r rfl <;> cases h : dto.description <;>
      simp [ClientEntity.with, mirrorColumns, *]

theorem delete_eq (h : ∀ row, rows id = some row → row.tenantId = some tenantId) :
    delete rows tenantId id = Function.update rows id none := by
  unfold delete
  cases hrow : rows id with
  | none =>
    rw [← hrow, Function.update_eq_self]
    simp [findOne, hrow]
  | some row => simp [findOne_eq_some.mpr ⟨hrow, h row hrow⟩]

theorem Agree.add (h : Agree s rows) {dto : CreateClient} {s' : State}
    (hmeets : Meets realm s (.add tenantId dto))
    (hadd : addClient realm tenantId dto s = some s') :
    Agree s' (internal hash (.add tenantId dto) rows) := by
  have hrow : (some ((s.mirror dto.clientId).elim
        ((mirrorColumns tenantId dto).row dto.clientId)
        (·.with (mirrorColumns tenantId dto)))).map KeycloakMirror.shown =
      (some ((rows dto.clientId).elim
        ((columnsOf tenantId dto hash).row dto.clientId)
        (·.with (columnsOf tenantId dto hash)))).map KeycloakMirror.shown := by
    cases hr : rows dto.clientId with
    | none =>
      rw [show s.mirror dto.clientId = none by simpa [hr] using h.rows dto.clientId]
      rfl
    | some row' =>
      obtain ⟨row, hm, hshown⟩ := h.shown hr
      rw [hm]
      exact congrArg some (shown_with hshown rfl)
  have hbacked (old : List String) (description : Option String)
      (hold : ∀ name ∈ old, name ∈ dto.roles.map Role.text)
      (hdescription : ∀ r, s.mirror dto.clientId = some r →
        r.description = none ∨ r.description = description) :=
    h.update dto.clientId hrow fun r hr =>
      ⟨_, rfl, Option.some.inj hr ▸ backs_saved tenantId hmeets.1 hold hdescription⟩
  unfold addClient at hadd
  cases hkc : s.kc dto.clientId with
  | none =>
    rw [hkc] at hadd
    cases hadd
    have hnew := hbacked [] none (by simp) fun r hr => by
      obtain ⟨c, hc, -⟩ := h.backed _ r hr
      cases hkc.symm.trans hc
    rwa [List.nil_append, Option.or_none] at hnew
  | some c =>
    rw [hkc] at hadd
    dsimp only at hadd
    split at hadd
    · cases hadd
      refine hbacked _ _ (hmeets.2 c hkc) fun r hr => ?_
      obtain ⟨c', hc, -, hdescription, -⟩ := h.backed _ r hr
      cases hkc.symm.trans hc
      exact hdescription
    · cases hadd

theorem Agree.change (h : Agree s rows) {dto : UpdateClient} {s' : State}
    (hmeets : Meets realm s (.update tenantId id dto))
    (hchange : updateClient realm tenantId id dto s = some s') :
    Agree s' (internal hash (.update tenantId id dto) rows) ∧
      Keeps s s' (.update tenantId id dto) := by
  obtain ⟨client, hclient, hchange⟩ := Option.bind_eq_some_iff.mp hchange
  obtain ⟨hm, htenant⟩ := findOne_eq_some.mp hclient
  obtain ⟨c, hkc, howner, hdescription, hroles⟩ := h.backed id client hm
  obtain ⟨client', hr, hshown⟩ : ∃ r, rows id = some r ∧
      KeycloakMirror.shown client = KeycloakMirror.shown r := by
    simpa [hm, eq_comm] using h.rows id
  have htenant' : client'.tenantId = some tenantId :=
    (congrArg ClientEntity.tenantId hshown).symm.trans htenant
  rw [hkc] at hchange
  dsimp only at hchange
  split at hchange
  · cases hchange
    have hsaved (rs : Rows) (r : ClientEntity) (hrs : rs id = some r)
        (ht : r.tenantId = some tenantId) : KeycloakMirror.update rs tenantId id
          (columnsOfUpdate dto) = Function.update rs id
            (some (r.with (columnsOfUpdate dto))) := by
      simp [KeycloakMirror.update, findOne_eq_some.mpr ⟨hrs, ht⟩]
    constructor
    · rw [hsaved _ _ hm htenant]
      show Agree _ (KeycloakMirror.update rows tenantId id _)
      rw [hsaved _ _ hr htenant']
      refine h.update id (congrArg some (shown_with hshown rfl)) fun r heq => ⟨_, rfl, ?_⟩
      cases heq
      refine ⟨howner, ?_, fun name => ?_⟩
      · obtain hnone | hsame := hdescription <;> cases hd : dto.description <;>
          simp [ClientEntity.with, columnsOfUpdate, *]
      · rw [List.mem_append, mem_toAssign hmeets.1]
        cases hnew : dto.roles with
        | none =>
          have hempty := hmeets.2 hnew c hkc
          simpa [ClientEntity.with, columnsOfUpdate, hnew, hempty] using
            hroles name
        | some roles =>
          simp [ClientEntity.with, columnsOfUpdate, hnew]
    · intro row hrow
      cases hclient.symm.trans hrow
      refine ⟨by simp [hsaved _ _ hm htenant], fun hnone => ?_⟩
      obtain hd | hd := hdescription <;> simp [hkc, hnone, hd]
  · cases hchange

theorem Agree.remove (h : Agree s rows) {s' : State}
    (hremove : removeClient tenantId id s = some s') :
    Agree s' (internal hash (.remove tenantId id) rows) := by
  have hdone (howner : ∀ c, s.kc id = some c → c.owner = tenantId) :
      Agree ⟨Function.update s.kc id none, delete s.mirror tenantId id⟩
        (delete rows tenantId id) := by
    have hmirror (row) (hrow : s.mirror id = some row) : row.tenantId = some tenantId := by
      obtain ⟨c, hc, ht, -⟩ := h.backed id row hrow
      rw [ht, howner c hc]
    rw [delete_eq hmirror, delete_eq fun row' hrow' => ?_]
    · exact h.update id rfl fun r hr => by cases hr
    · obtain ⟨row, hrow, hshown⟩ := h.shown hrow'
      exact (congrArg ClientEntity.tenantId hshown).symm.trans (hmirror row hrow)
  unfold removeClient at hremove
  cases hkc : s.kc id with
  | none =>
    rw [hkc] at hremove
    cases hremove
    rw [show s.kc = Function.update s.kc id none by simp [← hkc]]
    exact hdone fun c hc => by cases hkc.symm.trans hc
  | some c =>
    rw [hkc] at hremove
    dsimp only at hremove
    split at hremove
    · rename_i howner
      cases hremove
      exact hdone fun c' hc => by cases hkc.symm.trans hc; exact howner
    · cases hremove

/-- **One call keeps the agreement.** -/
theorem step_agrees (h : Agree p.1 p.2) (hstep : Step realm hash op p q) :
    Agree q.1 q.2 ∧ Keeps p.1 q.1 op := by
  obtain ⟨hmeets, hcall, hrows⟩ := hstep
  rw [hrows]
  cases op with
  | add => exact ⟨h.add hmeets hcall, trivial⟩
  | update => exact h.change hmeets hcall
  | remove => exact ⟨h.remove hcall, trivial⟩

def empty : State × Rows := (⟨fun _ => none, fun _ => none⟩, fun _ => none)

theorem agree_empty : Agree empty.1 empty.2 := ⟨fun _ => rfl, fun _ _ h => by cases h⟩

def issuer : CreateClient where
  clientId := "issuer"
  roles := [.issuances]

def added : State × Rows :=
  (⟨Function.update empty.1.kc "issuer" (some ⟨"t", none, [Role.issuances.text]⟩),
    save empty.1.mirror "issuer" (mirrorColumns "t" issuer)⟩,
    internal "h" (.add "t" issuer) empty.2)

end KeycloakMirror

open KeycloakMirror

/-- **Keycloak and the mirror agree** with the internal provider in every state that calls reach
which meet the condition, and an update there keeps what it omits. -/
theorem mirror_agrees {realm : List String} {p q : KeycloakMirror.State × Rows} (h : Agree p.1 p.2)
    (hrun : Relation.ReflTransGen (fun p q => ∃ hash op, Step realm hash op p q) p q) :
    Agree q.1 q.2 ∧ ∀ hash op r, Step realm hash op q r → Agree r.1 r.2 ∧ Keeps q.1 r.1 op := by
  induction hrun with
  | refl => exact ⟨h, fun _ _ _ => step_agrees h⟩
  | tail _ hstep ih =>
    obtain ⟨hash, op, hstep⟩ := hstep
    exact ⟨(ih.2 hash op _ hstep).1, fun _ _ _ => step_agrees (ih.2 hash op _ hstep).1⟩

theorem mirror_agrees_added : Agree added.1 added.2 :=
  (@mirror_agrees [Role.issuances.text] _ _ agree_empty (.single ⟨"h", .add "t" issuer,
    ⟨by simp [issuer], fun _ h => by cases h⟩, rfl, rfl⟩)).1

/-- An update of the description takes the role away in Keycloak alone. -/
theorem not_mirror_agrees : ∃ s, keycloak [Role.issuances.text]
      (.update "t" "issuer" { description := some "d" }) added.1 = some s ∧
    ¬Agree s (internal "h" (.update "t" "issuer" { description := some "d" }) added.2) := by
  refine ⟨_, rfl, fun h => ?_⟩
  obtain ⟨c, hc, -, -, hroles⟩ := h.backed "issuer" _ rfl
  cases hc
  cases (hroles Role.issuances.text).mpr (by decide)

end Eudiplo
