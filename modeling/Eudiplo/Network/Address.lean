import Mathlib.Data.Fin.Basic
import Mathlib.Data.List.SplitOn

/-!
# Internet addresses and their texts

Addresses are numbers; programs compare their texts.  `Address.text` is the text `inet_ntop`
writes, `isIP` is Node's `net.isIP`, and `Address.IsPrivate` says which addresses lie in no
public network, whatever they are written like.
-/

namespace Network

abbrev Text := List Char

def toLowerCase (s : Text) : Text := s.map Char.toLower

/-! ## Addresses -/

/-- An internet address: four octets, or eight groups of sixteen bits. -/
inductive Address where
  | v4 (a b c d : Fin 256)
  | v6 (g₀ g₁ g₂ g₃ g₄ g₅ g₆ g₇ : Fin 65536)
  deriving DecidableEq

/-- Private, loopback, link-local, carrier-grade NAT and unspecified octets. -/
def PrivateOctets (a b c d : Nat) : Prop :=
  a = 10 ∨ (a = 172 ∧ 16 ≤ b ∧ b ≤ 31) ∨ (a = 192 ∧ b = 168) ∨ a = 127 ∨ (a = 169 ∧ b = 254) ∨
    (a = 100 ∧ 64 ≤ b ∧ b ≤ 127) ∨ (a = 0 ∧ b = 0 ∧ c = 0 ∧ d = 0)

/-- **An address of no public network**: private (`fc00::/7` included), loopback, link-local,
carrier-grade NAT or unspecified, also as an IPv4-mapped address. -/
inductive Address.IsPrivate : Address → Prop where
  | octets {a b c d : Fin 256} (h : PrivateOctets a b c d) : IsPrivate (.v4 a b c d)
  | loopback : IsPrivate (.v6 0 0 0 0 0 0 0 1)
  | unspecified : IsPrivate (.v6 0 0 0 0 0 0 0 0)
  | uniqueLocal {g₀ g₁ g₂ g₃ g₄ g₅ g₆ g₇ : Fin 65536} (h : 0xfc00 ≤ g₀.val) (h' : g₀.val ≤ 0xfdff) :
    IsPrivate (.v6 g₀ g₁ g₂ g₃ g₄ g₅ g₆ g₇)
  | linkLocal {g₀ g₁ g₂ g₃ g₄ g₅ g₆ g₇ : Fin 65536} (h : 0xfe80 ≤ g₀.val) (h' : g₀.val ≤ 0xfebf) :
    IsPrivate (.v6 g₀ g₁ g₂ g₃ g₄ g₅ g₆ g₇)
  | mapped {g₆ g₇ : Fin 65536}
    (h : PrivateOctets (g₆ / 256 : Nat) (g₆ % 256 : Nat) (g₇ / 256 : Nat) (g₇ % 256 : Nat)) :
    IsPrivate (.v6 0 0 0 0 0 0xffff g₆ g₇)

/-! ## Texts -/

def decimal (n : Nat) : Text := Nat.toDigits 10 n

def hextet (n : Nat) : Text := Nat.toDigits 16 n

/-- `parts.join(separator)`. -/
def join (separator : Char) (parts : List Text) : Text := [separator].intercalate parts

def dotted (a b c d : Nat) : Text := join '.' [decimal a, decimal b, decimal c, decimal d]

/-- The runs of two or more groups, the longest first, then from the left. -/
def runs : List (Nat × Nat) :=
  [8, 7, 6, 5, 4, 3, 2].flatMap fun length =>
    (List.range (9 - length)).map fun start => (start, length)

/-- The run of zeros that is written `::`. -/
def zeroRun (groups : List Nat) : Option (Nat × Nat) :=
  runs.find? fun run => ((groups.drop run.1).take run.2).all (· == 0)

/-- The groups after a run; `inet_ntop` ends an IPv4-mapped address with dotted octets. -/
def afterRun (groups : List Nat) (start length : Nat) : Text :=
  let rest := groups.drop (start + length)
  if start == 0 && (length == 6 || length == 5 && rest.head? == some 0xffff) then
    let last := groups.drop 6
    join ':' ((rest.take (6 - length)).map hextet ++ [dotted (last.headD 0 / 256)
      (last.headD 0 % 256) (last.getLastD 0 / 256) (last.getLastD 0 % 256)])
  else join ':' (rest.map hextet)

/-- Eight groups as `inet_ntop` writes them. -/
def groupsText (groups : List Nat) : Text :=
  match zeroRun groups with
  | none => join ':' (groups.map hextet)
  | some (start, length) =>
    join ':' ((groups.take start).map hextet) ++ ':' :: ':' :: afterRun groups start length

/-- **The text of an address.** -/
def Address.text : Address → Text
  | .v4 a b c d => dotted a b c d
  | .v6 g₀ g₁ g₂ g₃ g₄ g₅ g₆ g₇ => groupsText [g₀, g₁, g₂, g₃, g₄, g₅, g₆, g₇]

/-! ## `net.isIP` -/

def isOctet (s : Text) : Bool :=
  !s.isEmpty && s.all Char.isDigit && (s.length == 1 || s.head? != some '0') &&
    Nat.ofDigitChars 10 s 0 < 256

def isIPv4 (s : Text) : Bool := (s.splitOn '.').length == 4 && (s.splitOn '.').all isOctet

def isHextet (s : Text) : Bool :=
  !s.isEmpty && s.length ≤ 4 && s.all fun c => c.isDigit || ('a' ≤ c.toLower && c.toLower ≤ 'f')

/-- How many groups colon-separated parts stand for; the last part may be dotted octets. -/
def groupCount : List Text → Option Nat
  | [] => some 0
  | [part] => if isHextet part then some 1 else if isIPv4 part then some 2 else none
  | part :: parts => if isHextet part then (groupCount parts).map (· + 1) else none

/-- The text before and after the first `::`. -/
def splitRun : Text → Option (Text × Text)
  | ':' :: ':' :: rest => some ([], rest)
  | c :: rest => (splitRun rest).map fun p => (c :: p.1, p.2)
  | [] => none

/-- The parts of one side of a `::`. -/
def sideParts (s : Text) : List Text := if s.isEmpty then [] else s.splitOn ':'

/-- `net.isIPv6`: eight groups, or fewer with one `::`; a zone may follow. -/
def isIPv6 (s : Text) : Bool :=
  let address := s.takeWhile (· != '%')
  let zone := s.dropWhile (· != '%')
  (zone.isEmpty || zone.length > 1) &&
    match splitRun address with
    | none => groupCount (address.splitOn ':') == some 8
    | some (before, after) =>
      (sideParts before).all isHextet && (groupCount (sideParts after)).any fun count =>
        (sideParts before).length + count < 8

def isIP (s : Text) : Nat := if isIPv4 s then 4 else if isIPv6 s then 6 else 0

example : isIP "::ffff:10.0.0.1".toList = 6 := by decide +kernel

/-! ## Reading texts back -/

variable {a b c d : Fin 256}

theorem isDigit_of_mem_decimal {n : Nat} {x : Char} (h : x ∈ decimal n) : x.isDigit = true :=
  Nat.isDigit_of_mem_toDigits (by decide) (by decide) h

theorem ofDigitChars_decimal (n : Nat) : Nat.ofDigitChars 10 (decimal n) 0 = n :=
  Nat.ofDigitChars_toDigits (by decide) (by decide)

theorem isOctet_decimal : ∀ n : Fin 256, isOctet (decimal n) = true := by decide +kernel

theorem splitOn_dotted (a b c d : Nat) :
    (dotted a b c d).splitOn '.' = [decimal a, decimal b, decimal c, decimal d] := by
  refine List.splitOn_intercalate '.' (fun part hpart hdot => ?_) (by simp)
  have hdigits (n : Nat) (hmem : '.' ∈ decimal n) : False :=
    absurd (isDigit_of_mem_decimal hmem) (by decide)
  simp only [List.mem_cons, List.not_mem_nil, or_false] at hpart
  rcases hpart with rfl | rfl | rfl | rfl <;> exact hdigits _ hdot

theorem isIPv4_dotted : isIPv4 (dotted a b c d) = true := by
  simp [isIPv4, splitOn_dotted, isOctet_decimal]

theorem isIP_dotted : isIP (dotted a b c d) = 4 := by simp [isIP, isIPv4_dotted]

theorem toLowerCase_decimal : ∀ n : Fin 256, toLowerCase (decimal n) = decimal n := by
  decide +kernel

theorem dotted_eq (a b c d : Nat) :
    dotted a b c d = decimal a ++ '.' :: (decimal b ++ '.' :: (decimal c ++ '.' :: decimal d)) := by
  simp [dotted, join, List.intercalate, List.intersperse]

theorem toLowerCase_dotted : toLowerCase (dotted a b c d) = dotted a b c d := by
  have h := toLowerCase_decimal
  simp only [toLowerCase] at h ⊢
  simp [dotted_eq, h]

theorem dotted_cons (a b c d : Nat) :
    ∃ x rest, dotted a b c d = x :: rest ∧ x.isDigit = true := by
  obtain ⟨x, rest, h⟩ := List.exists_cons_of_ne_nil (Nat.toDigits_ne_nil (n := a) (b := 10))
  have hmem : x ∈ decimal a := by
    rw [decimal, h]
    exact List.mem_cons_self
  have hx : x.isDigit = true := isDigit_of_mem_decimal hmem
  refine ⟨x, rest ++ '.' :: (decimal b ++ '.' :: (decimal c ++ '.' :: decimal d)), ?_, hx⟩
  rw [dotted_eq, decimal, h, List.cons_append]

theorem splitOn_cons_of_ne {x separator : Char} (rest : Text) (h : x ≠ separator) :
    ∃ part parts, (x :: rest).splitOn separator = (x :: part) :: parts := by
  obtain ⟨part, parts, hparts⟩ := List.exists_cons_of_ne_nil (List.splitOn_ne_nil separator rest)
  refine ⟨part, parts, ?_⟩
  rw [List.splitOn_cons_eq_if_modifyHead, if_neg (by simpa using h), hparts]
  rfl

theorem isIPv4_cons {x : Char} {rest : Text} (h : x.isDigit = false) (hdot : x ≠ '.') :
    isIPv4 (x :: rest) = false := by
  obtain ⟨part, parts, hsplit⟩ := splitOn_cons_of_ne rest hdot
  simp [isIPv4, hsplit, isOctet, h]

theorem isIP_cons_ne_four {x : Char} {rest : Text} (h : x.isDigit = false) (hdot : x ≠ '.') :
    isIP (x :: rest) ≠ 4 := by
  rw [isIP, isIPv4_cons h hdot]
  cases isIPv6 (x :: rest) <;> decide

theorem isHextet_bracket (part : Text) : isHextet ('[' :: part) = false := by
  have hdigit : ('['.isDigit || ('a' ≤ '['.toLower && '['.toLower ≤ 'f')) = false := by decide
  simp only [isHextet, List.all_cons, hdigit, Bool.false_and, Bool.and_false]

theorem groupCount_bracket (part : Text) (parts : List Text) :
    groupCount (('[' :: part) :: parts) = none := by
  have hoctets : isIPv4 ('[' :: part) = false := isIPv4_cons (by decide) (by decide)
  cases parts <;> simp [groupCount, isHextet_bracket, hoctets]

/-- **A text in brackets is no address.** -/
theorem isIP_bracket (rest : Text) : isIP ('[' :: rest) = 0 := by
  have hno : isIPv6 ('[' :: rest) = false := by
    have htake : ('[' :: rest).takeWhile (· != '%') = '[' :: rest.takeWhile (· != '%') := by
      simp
    have hrun (s : Text) : splitRun ('[' :: s) = (splitRun s).map fun p => ('[' :: p.1, p.2) := by
      rw [splitRun]
      exact fun _ h => absurd h (by decide)
    simp only [isIPv6, htake, hrun]
    cases splitRun (rest.takeWhile (· != '%')) with
    | none =>
      obtain ⟨part, parts, hsplit⟩ :=
        splitOn_cons_of_ne (rest.takeWhile (· != '%')) (show '[' ≠ ':' by decide)
      simp [hsplit, groupCount_bracket]
    | some sides =>
      obtain ⟨part, parts, hsplit⟩ := splitOn_cons_of_ne sides.1 (show '[' ≠ ':' by decide)
      simp [sideParts, hsplit, isHextet_bracket]
  rw [isIP, isIPv4_cons (by decide) (by decide), hno]
  rfl

theorem octets_dotted (a b c d : Nat) :
    ((dotted a b c d).splitOn '.').map (fun part => Nat.ofDigitChars 10 part 0) = [a, b, c, d] := by
  simp [splitOn_dotted, ofDigitChars_decimal]

/-! ## The first group -/

theorem hextet_of_le {n : Nat} (h : 4096 ≤ n) (h' : n < 65536) :
    hextet n = [Nat.digitChar (n / 4096), Nat.digitChar (n / 256 % 16),
      Nat.digitChar (n / 16 % 16), Nat.digitChar (n % 16)] := by
  rw [hextet, Nat.toDigits_of_base_le (by decide) (by omega),
    Nat.toDigits_of_base_le (by decide) (by omega), Nat.toDigits_of_base_le (by decide) (by omega),
    Nat.toDigits_of_lt_base (by omega)]
  simp only [List.cons_append, List.nil_append]
  have h₁ : n / 16 / 16 = n / 256 := Nat.div_div_eq_div_mul n 16 16
  have h₂ : n / 256 / 16 = n / 4096 := Nat.div_div_eq_div_mul n 256 16
  rw [h₁, h₂]

theorem two_le_length : ∀ run ∈ runs, 2 ≤ run.2 := by decide

theorem zeroRun_start {g : Nat} {rest : List Nat} {start length : Nat}
    (h : zeroRun (g :: rest) = some (start, length)) (hne : g ≠ 0) : start ≠ 0 := by
  rintro rfl
  have hzero := List.find?_some h
  have hlength := two_le_length _ (List.mem_of_find?_eq_some h)
  obtain ⟨k, rfl⟩ : ∃ k, length = k + 1 := ⟨length - 1, by simp at hlength; omega⟩
  simp only [List.drop_zero, List.take_succ_cons, List.all_cons, Bool.and_eq_true,
    beq_iff_eq] at hzero
  exact hne hzero.1

theorem join_cons (separator : Char) (part : Text) (parts : List Text) :
    ∃ tail, join separator (part :: parts) = part ++ tail := by
  cases parts with
  | nil => exact ⟨[], by simp [join]⟩
  | cons next parts =>
    exact ⟨separator :: join separator (next :: parts), by simp [join, List.intercalate]⟩

theorem groupsText_head {g : Nat} {rest : List Nat} (h : g ≠ 0) :
    ∃ tail, groupsText (g :: rest) = hextet g ++ tail := by
  unfold groupsText
  split
  · exact join_cons _ _ _
  · rename_i start length hrun
    obtain ⟨k, rfl⟩ : ∃ k, start = k + 1 := Nat.exists_eq_succ_of_ne_zero (zeroRun_start hrun h)
    obtain ⟨tail, htail⟩ := join_cons ':' (hextet g) ((rest.take k).map hextet)
    refine ⟨tail ++ ':' :: ':' :: afterRun (g :: rest) (k + 1) length, ?_⟩
    rw [List.take_succ_cons, List.map_cons, htail, List.append_assoc]

/-- **The text of an address in a high network** begins with four known digits. -/
theorem text_head (g₀ g₁ g₂ g₃ g₄ g₅ g₆ g₇ : Fin 65536) (h : 4096 ≤ g₀.val) : ∃ tail,
    (Address.v6 g₀ g₁ g₂ g₃ g₄ g₅ g₆ g₇).text =
      Nat.digitChar (g₀ / 4096 : Nat) :: Nat.digitChar (g₀ / 256 % 16 : Nat) ::
        Nat.digitChar (g₀ / 16 % 16 : Nat) :: tail := by
  have hne : g₀.val ≠ 0 := by omega
  have hhead : ∃ tail, groupsText [g₀, g₁, g₂, g₃, g₄, g₅, g₆, g₇] = hextet g₀ ++ tail :=
    groupsText_head hne
  obtain ⟨tail, htail⟩ := hhead
  refine ⟨Nat.digitChar (g₀ % 16 : Nat) :: tail, ?_⟩
  rw [hextet_of_le h g₀.isLt] at htail
  exact htail

theorem text_mapped (g₆ g₇ : Fin 65536) : (Address.v6 0 0 0 0 0 0xffff g₆ g₇).text =
    ':' :: ':' :: 'f' :: 'f' :: 'f' :: 'f' :: ':' ::
      dotted (g₆ / 256 : Nat) (g₆ % 256 : Nat) (g₇ / 256 : Nat) (g₇ % 256 : Nat) := by
  have hrun : zeroRun [0, 0, 0, 0, 0, 65535, g₆.val, g₇.val] = some (0, 5) := rfl
  have hffff : hextet 65535 = ['f', 'f', 'f', 'f'] := by decide +kernel
  show groupsText [0, 0, 0, 0, 0, 65535, g₆.val, g₇.val] = _
  simp [groupsText, hrun, afterRun, join, List.intercalate, hffff]

end Network
