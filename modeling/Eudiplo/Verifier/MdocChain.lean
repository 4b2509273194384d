import Eudiplo.Shared.Results
import Mathlib.Tactic

/-!
# The certificate chain of an mdoc

`trimChainToTrustedAnchor`, `verifyChainSignatures` and `verifyCertificateChain` over an X.509
library whose `verify` answers with a boolean.  The boolean is not looked at, and a trusted root is
not verified at all: so a chain that is returned is valid at the instant exactly where `verify`
throws for every chain that is not (`chain_validated`).
-/

namespace Eudiplo

open Results

namespace MdocChain

/-- **The X.509 library**: `verify` answers whether a signature and a date are right, and may
throw; `build` gives a leaf and issuers from the pool, each linked by name and signature. -/
structure X509Library where
  Der : Type
  [sameDer : DecidableEq Der]
  Cert : Type
  Key : Type
  Time : Type
  parse : Der → Except String Cert
  rawData : Cert → Der
  publicKey : Cert → Key
  /-- The certificate names this one as its issuer. -/
  Names : Cert → Cert → Prop
  Signed : Cert → Key → Prop
  ValidAt : Cert → Time → Prop
  verify : Cert → Option Key → Time → Except String Bool
  verify_true : ∀ c key t, verify c (some key) t = .ok true ↔ Signed c key ∧ ValidAt c t
  build : List Cert → Cert → Except String (List Cert)
  build_path : ∀ pool leaf path, build pool leaf = .ok path → ∃ issuers, path = leaf :: issuers ∧
    (∀ c ∈ issuers, c ∈ pool) ∧
      path.IsChain fun c issuer => Names c issuer ∧ Signed c (publicKey issuer)
  /-- What a message says of a certificate, the one before it and the chain. -/
  diagnostics : Cert → Option Cert → List Cert → String

attribute [instance] X509Library.sameDer

variable (x : X509Library)

/-- One of the anchors is `equal` to the certificate. -/
def X509Library.isAnchor (anchors : List x.Cert) (c : x.Cert) : Bool :=
  anchors.any fun anchor => x.rawData c == x.rawData anchor

/-- `trimChainToTrustedAnchor`; the certificate before the rest comes with it. -/
def trimChainToTrustedAnchor (parsedChain : List x.Cert) (trusted : Option (List x.Der)) :
    Except String (List x.Cert × Option x.Cert) :=
  match trusted with
  | none => .ok (parsedChain, none)
  | some trusted => do
    let anchors ← trusted.mapM x.parse
    match parsedChain.findIdx? (x.isAnchor anchors) with
    | none => .error "No trusted certificate was found while validating the X.509 chain"
    | some index =>
      if index > 0 then .ok (parsedChain.drop index, parsedChain[index - 1]?)
      else .ok (parsedChain, none)

/-- One round of the loop of `verifyChainSignatures`. -/
def verifySignature (parsedChain : List x.Cert) (trusted : Option (List x.Der)) (date : x.Time)
    (i : Nat) (previous : Option x.Cert) (cert : x.Cert) : Except String Unit :=
  let publicKey := previous.map x.publicKey
  if i = 0 ∧ trusted.isSome ∧ publicKey.isNone then .ok ()
  else
    match x.verify cert publicKey date with
    | .ok _ => .ok ()
    | .error cause => .error (s!"X.509 chain verification failed at index={i}. " ++
        x.diagnostics cert previous parsedChain ++ s!" cause={cause}")

/-- `verifyChainSignatures`, from an index on; `clock` is `new Date()` there. -/
def verifyChainSignatures (parsedChain : List x.Cert) (trusted : Option (List x.Der))
    (now : Option x.Time) (clock : Nat → x.Time) :
    Nat → Option x.Cert → List x.Cert → Except String Unit
  | _, _, [] => .ok ()
  | i, previous, cert :: rest => do
    verifySignature x parsedChain trusted (now.getD (clock i)) i previous cert
    verifyChainSignatures parsedChain trusted now clock (i + 1) (some cert) rest

/-- **`verifyCertificateChain`**: the chain it returns, as bytes. -/
def verifyCertificateChain (trusted x5chain : List x.Der) (now : Option x.Time)
    (clock : Nat → x.Time) : Except String (List x.Der) :=
  match x5chain with
  | [] => .error "Certificate chain is empty"
  | first :: _ => do
    let leaf ← x.parse first
    let pool ← (x5chain ++ trusted).mapM x.parse
    let chain ← x.build pool leaf
    let parsedChain := chain.reverse
    if parsedChain.length < x5chain.length then
      .error "Could not parse the full chain. Likely due to incorrect ordering"
    else do
      let trimmed ← trimChainToTrustedAnchor x parsedChain (some trusted)
      verifyChainSignatures x trimmed.1 (some trusted) now clock 0 trimmed.2 trimmed.1
      return trimmed.1.map x.rawData

/-! ## What is promised -/

/-- **The path that is built** for a presented chain, and the anchors. -/
structure Built (trusted x5chain : List x.Der) (leaf : x.Cert) (anchors path : List x.Cert) :
    Prop where
  parsed : ∃ first ∈ x5chain.head?, x.parse first = .ok leaf
  anchors : trusted.mapM x.parse = .ok anchors
  path : ∃ pool, (x5chain ++ trusted).mapM x.parse = .ok pool ∧ x.build pool leaf = .ok path

/-- From the first anchor of the path on, root first. -/
structure Cut (anchors path above chain : List x.Cert) : Prop where
  whole : path.reverse = above ++ chain
  anchor : ∃ c ∈ chain.head?, x.isAnchor anchors c = true
  first : ∀ c ∈ above, x.isAnchor anchors c = false

/-- **What a returned chain promises.** -/
structure Promised (trusted x5chain : List x.Der) (now : x.Time) (returned : List x.Der) :
    Prop where
  chain : ∃ leaf anchors path above chain, Built x trusted x5chain leaf anchors path ∧
    Cut x anchors path above chain ∧ returned = chain.map x.rawData ∧ chain.getLast? = some leaf ∧
    chain.IsChain (fun issuer c => x.Signed c (x.publicKey issuer)) ∧ ∀ c ∈ chain, x.ValidAt c now

/-- **The chain check is sound.** -/
def Sound (trusted x5chain : List x.Der) (now : x.Time) (clock : Nat → x.Time) : Prop :=
  ∀ returned, verifyCertificateChain x trusted x5chain (some now) clock = .ok returned →
    Promised x trusted x5chain now returned

/-- **The chain check is complete.** -/
def Complete (trusted x5chain : List x.Der) (now : x.Time) (clock : Nat → x.Time) : Prop :=
  ∀ leaf anchors path above chain, Built x trusted x5chain leaf anchors path →
    x5chain.length ≤ path.length → Cut x anchors path above chain →
    (∀ c ∈ chain, x.ValidAt c now) →
    verifyCertificateChain x trusted x5chain (some now) clock = .ok (chain.map x.rawData)

/-- No call of `verify` throws on a chain, each one under the key of the one before. -/
def Quiet (now : x.Time) (chain : List x.Cert) : Prop :=
  chain.IsChain fun issuer c => ∀ e, x.verify c (some (x.publicKey issuer)) now ≠ .error e

/-- **Where `verify` throws** for every chain that is not valid. -/
def Thrown (trusted x5chain : List x.Der) (now : x.Time) : Prop :=
  ∀ leaf anchors path above chain, Built x trusted x5chain leaf anchors path →
    x5chain.length ≤ path.length → Cut x anchors path above chain →
    Quiet x now (above.getLast?.toList ++ chain) → ∀ c ∈ chain, x.ValidAt c now

/-! ## The loop -/

variable {x} {trusted x5chain : List x.Der} {anchors chain path : List x.Cert} {now : x.Time}
  {clock : Nat → x.Time}

theorem verifySignature_ok (parsedChain : List x.Cert) (i : Nat) {issuer c : x.Cert} :
    verifySignature x parsedChain (some trusted) now i (some issuer) c = .ok () ↔
      ∀ e, x.verify c (some (x.publicKey issuer)) now ≠ .error e := by
  unfold verifySignature
  rw [if_neg (by simp)]
  cases hverify : x.verify c (some (x.publicKey issuer)) now <;> simp [hverify]

theorem verifyChainSignatures_some {parsedChain : List x.Cert} {i : Nat} {issuer : x.Cert} :
    verifyChainSignatures x parsedChain (some trusted) (some now) clock i (some issuer) chain =
      .ok () ↔ Quiet x now (issuer :: chain) := by
  unfold Quiet
  induction chain generalizing i issuer with
  | nil => simp [verifyChainSignatures]
  | cons c rest ih =>
    rw [verifyChainSignatures, bind_eq_ok, List.isChain_cons_cons, ← ih (i := i + 1),
      ← verifySignature_ok parsedChain i]
    exact ⟨fun ⟨_, hfirst, hrest⟩ => ⟨hfirst, hrest⟩, fun ⟨hfirst, hrest⟩ => ⟨(), hfirst, hrest⟩⟩

/-- **The loop is done exactly if no call throws**; a root is not verified. -/
theorem verifyChainSignatures_ok {parsedChain above : List x.Cert} (h : Cut x anchors path above
    chain) : verifyChainSignatures x parsedChain (some trusted) (some now) clock 0 above.getLast?
      chain = .ok () ↔ Quiet x now (above.getLast?.toList ++ chain) := by
  cases above.getLast? with
  | some issuer => exact verifyChainSignatures_some
  | none =>
    obtain ⟨c, hc, -⟩ := h.anchor
    obtain ⟨rest, rfl⟩ := List.head?_eq_some_iff.mp hc
    exact verifyChainSignatures_some

/-! ## The cut -/

theorem trim_eq {above : List x.Cert} (hanchors : trusted.mapM x.parse = .ok anchors)
    (h : Cut x anchors path above chain) :
    trimChainToTrustedAnchor x path.reverse (some trusted) = .ok (chain, above.getLast?) := by
  obtain ⟨c, hc, hanchor⟩ := h.anchor
  obtain ⟨rest, rfl⟩ := List.head?_eq_some_iff.mp hc
  have hindex : (above ++ c :: rest).findIdx? (x.isAnchor anchors) = some above.length := by
    rw [List.findIdx?_append, List.findIdx?_eq_none_iff.mpr h.first, List.findIdx?_cons, hanchor]
    simp
  unfold trimChainToTrustedAnchor
  rw [h.whole]
  refine bind_eq_ok.mpr ⟨anchors, hanchors, ?_⟩
  rw [hindex]
  dsimp only
  split
  · rename_i hpos
    rw [List.drop_left, List.getElem?_append_left (by omega), List.getLast?_eq_getElem?]
  · rename_i hzero
    obtain rfl := List.length_eq_zero_iff.mp (Nat.eq_zero_of_not_pos hzero)
    rfl

theorem cut_of_trim {trimmed : List x.Cert × Option x.Cert}
    (h : trimChainToTrustedAnchor x path.reverse (some trusted) = .ok trimmed) :
    ∃ anchors above, trusted.mapM x.parse = .ok anchors ∧ Cut x anchors path above trimmed.1 ∧
      trimmed.2 = above.getLast? := by
  obtain ⟨anchors, hanchors, hrest⟩ := bind_eq_ok.mp h
  cases hindex : path.reverse.findIdx? (x.isAnchor anchors) with
  | none =>
    rw [hindex] at hrest
    cases hrest
  | some i =>
    obtain ⟨hlt, hanchor, hfirst⟩ := List.findIdx?_eq_some_iff_getElem.mp hindex
    have hcut : Cut x anchors path (path.reverse.take i) (path.reverse.drop i) := by
      refine ⟨(List.take_append_drop i _).symm, ⟨path.reverse[i], ?_, hanchor⟩, fun c hc => ?_⟩
      · simp [List.head?_drop, List.getElem?_eq_getElem hlt]
      · obtain ⟨j, hj, rfl⟩ := List.mem_take_iff_getElem.mp hc
        simpa using hfirst j (by omega)
    cases (trim_eq hanchors hcut).symm.trans h
    exact ⟨anchors, _, hanchors, hcut, rfl⟩

/-- **What is returned**: the path from the first anchor on, if no call throws. -/
theorem verifyCertificateChain_ok {returned : List x.Der} :
    verifyCertificateChain x trusted x5chain (some now) clock = .ok returned ↔
      ∃ leaf anchors path above chain, Built x trusted x5chain leaf anchors path ∧
        x5chain.length ≤ path.length ∧ Cut x anchors path above chain ∧
          Quiet x now (above.getLast?.toList ++ chain) ∧ returned = chain.map x.rawData := by
  cases x5chain with
  | nil =>
    refine iff_of_false (fun h => by cases h) ?_
    rintro ⟨leaf, anchors, path, above, chain, hbuilt, -⟩
    obtain ⟨first, hfirst, -⟩ := hbuilt.parsed
    cases hfirst
  | cons first others =>
    unfold verifyCertificateChain
    dsimp only
    constructor
    · intro h
      obtain ⟨leaf, hleaf, h⟩ := bind_eq_ok.mp h
      obtain ⟨pool, hpool, h⟩ := bind_eq_ok.mp h
      obtain ⟨path, hpath, h⟩ := bind_eq_ok.mp h
      split at h
      · cases h
      rename_i hlength
      obtain ⟨trimmed, htrim, h⟩ := bind_eq_ok.mp h
      obtain ⟨⟨⟩, hverified, h⟩ := bind_eq_ok.mp h
      cases h
      obtain ⟨anchors, above, hanchors, hcut, hprevious⟩ := cut_of_trim htrim
      rw [hprevious, verifyChainSignatures_ok hcut] at hverified
      exact ⟨leaf, anchors, path, above, _, ⟨⟨first, rfl, hleaf⟩, hanchors, pool, hpool, hpath⟩,
        by simpa using hlength, hcut, hverified, rfl⟩
    · rintro ⟨leaf, anchors, path, above, chain, hbuilt, hlength, hcut, hquiet, rfl⟩
      obtain ⟨⟨_, hfirst, hleaf⟩, hanchors, pool, hpool, hpath⟩ := hbuilt
      cases hfirst
      refine bind_eq_ok.mpr ⟨leaf, hleaf, bind_eq_ok.mpr ⟨pool, hpool, bind_eq_ok.mpr
        ⟨path, hpath, ?_⟩⟩⟩
      rw [if_neg (by simpa using hlength)]
      exact bind_eq_ok.mpr ⟨_, trim_eq hanchors hcut, bind_eq_ok.mpr
        ⟨(), (verifyChainSignatures_ok hcut).mpr hquiet, rfl⟩⟩

/-! ## Links -/

theorem Built.links {leaf : x.Cert} {above : List x.Cert}
    (hbuilt : Built x trusted x5chain leaf anchors path) (hcut : Cut x anchors path above chain) :
    (above.getLast?.toList ++ chain).IsChain (fun issuer c => x.Signed c (x.publicKey issuer)) ∧
      chain.getLast? = some leaf := by
  obtain ⟨pool, -, hpath⟩ := hbuilt.path
  obtain ⟨issuers, hissuers, -, hlinked⟩ := x.build_path _ _ _ hpath
  have hreverse : path.reverse.IsChain fun issuer c => x.Signed c (x.publicKey issuer) :=
    List.isChain_reverse.mpr (hlinked.imp fun _ _ h => h.2)
  have hlast : path.reverse.getLast? = some leaf := by simp [hissuers]
  rw [hcut.whole] at hreverse hlast
  constructor
  · rcases List.eq_nil_or_concat above with rfl | ⟨front, issuer, rfl⟩
    · exact hreverse
    · rw [List.concat_eq_append, List.append_assoc] at hreverse
      simpa using hreverse.right_of_append
  · obtain ⟨c, hc, -⟩ := hcut.anchor
    obtain ⟨rest, rfl⟩ := List.head?_eq_some_iff.mp hc
    simpa [List.getLast?_append] using hlast

theorem quiet_of_valid {certs : List x.Cert}
    (hsigned : certs.IsChain fun issuer c => x.Signed c (x.publicKey issuer))
    (hvalid : ∀ c ∈ certs.tail, x.ValidAt c now) : Quiet x now certs := by
  unfold Quiet
  induction certs with
  | nil => exact .nil
  | cons issuer rest ih =>
    cases rest with
    | nil => exact .singleton _
    | cons c rest =>
      obtain ⟨hfirst, hrest⟩ := List.isChain_cons_cons.mp hsigned
      refine .cons_cons (fun e he => ?_) (ih hrest fun d hd => hvalid d (List.mem_of_mem_tail hd))
      rw [(x.verify_true c _ now).mpr ⟨hfirst, hvalid c List.mem_cons_self⟩] at he
      cases he

/-! ## Soundness and completeness -/

theorem complete (x : X509Library) (trusted x5chain : List x.Der) (now : x.Time)
    (clock : Nat → x.Time) : Complete x trusted x5chain now clock := by
  intro leaf anchors path above chain hbuilt hlength hcut hvalid
  refine verifyCertificateChain_ok.mpr ⟨leaf, anchors, path, above, chain, hbuilt, hlength, hcut,
    quiet_of_valid (hbuilt.links hcut).1 fun c hc => hvalid c ?_, rfl⟩
  cases hlast : above.getLast? with
  | none =>
    rw [hlast] at hc
    exact List.mem_of_mem_tail hc
  | some issuer =>
    rw [hlast] at hc
    exact hc

/-- **The check is sound exactly where `verify` throws.** -/
theorem sound_iff : Sound x trusted x5chain now clock ↔ Thrown x trusted x5chain now := by
  constructor
  · intro h leaf anchors path above chain hbuilt hlength hcut hquiet
    obtain ⟨leaf', anchors', path', above', chain', hbuilt', hcut', -, -, -, hvalid⟩ :=
      (h _ (verifyCertificateChain_ok.mpr ⟨leaf, anchors, path, above, chain, hbuilt, hlength,
        hcut, hquiet, rfl⟩)).chain
    obtain ⟨⟨first, hfirst, hleaf⟩, hanchors, pool, hpool, hpath⟩ := hbuilt
    obtain ⟨⟨first', hfirst', hleaf'⟩, hanchors', pool', hpool', hpath'⟩ := hbuilt'
    cases hfirst.symm.trans hfirst'
    cases hleaf.symm.trans hleaf'
    cases hanchors.symm.trans hanchors'
    cases hpool.symm.trans hpool'
    cases hpath.symm.trans hpath'
    obtain ⟨rfl, -⟩ := Prod.mk.inj
      (Except.ok.inj ((trim_eq hanchors hcut).symm.trans (trim_eq hanchors hcut')))
    exact hvalid
  · intro h returned hreturned
    obtain ⟨leaf, anchors, path, above, chain, hbuilt, hlength, hcut, hquiet, rfl⟩ :=
      verifyCertificateChain_ok.mp hreturned
    obtain ⟨hsigned, hlast⟩ := hbuilt.links hcut
    exact ⟨leaf, anchors, path, above, chain, hbuilt, hcut, rfl, hlast, hsigned.right_of_append,
      h leaf anchors path above chain hbuilt hlength hcut hquiet⟩

def expiring : X509Library where
  Der := Nat
  Cert := Nat
  Key := Nat
  Time := Nat
  parse der := .ok der
  rawData c := c
  publicKey c := c
  Names _ issuer := issuer = 7
  Signed _ key := key = 7
  ValidAt _ t := t ≤ 5
  verify c key t := .ok (decide (key.getD c = 7 ∧ t ≤ 5))
  verify_true c key t := by simp
  build pool leaf := .ok (if leaf ≠ 7 ∧ 7 ∈ pool then [leaf, 7] else [leaf])
  build_path pool leaf path h := by
    cases h
    split
    · rename_i hleaf
      exact ⟨[7], rfl, by simpa using hleaf.2, by simp⟩
    · exact ⟨[], rfl, by simp, .singleton _⟩
  diagnostics _ _ _ := ""

end MdocChain

open MdocChain

/-- **The chain check of an mdoc** is complete, and sound exactly where `verify` throws. -/
theorem chain_validated (x : MdocChain.X509Library) (trusted x5chain : List x.Der)
    (now : x.Time) (clock : Nat → x.Time) :
    (Sound x trusted x5chain now clock ∧ Complete x trusted x5chain now clock) ↔
      Thrown x trusted x5chain now :=
  ⟨fun h => sound_iff.mp h.1, fun h => ⟨sound_iff.mpr h, complete _ _ _ _ _⟩⟩

/-- An expired leaf of an expired root is returned. -/
theorem not_chain_validated :
    ¬Sound expiring ([7] : List Nat) ([1] : List Nat) (9 : Nat) fun _ => (9 : Nat) := by
  intro h
  obtain ⟨leaf, anchors, path, above, chain, -, hcut, -, -, -, hvalid⟩ :=
    (h ([7, 1] : List Nat) rfl).chain
  obtain ⟨c, hc, -⟩ := hcut.anchor
  exact absurd (hvalid c (List.mem_of_mem_head? hc)) (show ¬(9 : Nat) ≤ 5 by decide)

end Eudiplo
