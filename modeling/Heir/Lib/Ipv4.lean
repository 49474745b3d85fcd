import Mathlib.Tactic

set_option autoImplicit false

/-! # IPv4 addresses and address ranges

Addresses as four octets, their dotted text, and ranges in CIDR notation. A range is read as by
Go's `net.ParseCIDR`: the address has no leading zeros, the number of leading bits may.
-/

namespace Ipv4

/-! ## Addresses -/

structure Addr where
  a : Fin 256
  b : Fin 256
  c : Fin 256
  d : Fin 256
  deriving DecidableEq, Repr

namespace Addr

def toNat (x : Addr) : Nat := x.a * 2 ^ 24 + x.b * 2 ^ 16 + x.c * 2 ^ 8 + x.d

/-- The address with a number, modulo `2 ^ 32`. -/
def ofNat (n : Nat) : Addr :=
  ⟨Fin.ofNat 256 (n / 2 ^ 24), Fin.ofNat 256 (n / 2 ^ 16), Fin.ofNat 256 (n / 2 ^ 8),
    Fin.ofNat 256 n⟩

/-- The address that is written `a.b.c.d`. -/
def ofOctets (a b c d : Nat) : Addr :=
  ⟨Fin.ofNat 256 a, Fin.ofNat 256 b, Fin.ofNat 256 c, Fin.ofNat 256 d⟩

theorem toNat_ofNat {n : Nat} (h : n < 2 ^ 32) : (ofNat n).toNat = n := by
  simp only [toNat, ofNat, Fin.val_ofNat]
  omega

end Addr

/-! ## Dotted text -/

def octetText (o : Fin 256) : List Char := (toString o.val).toList

def Addr.text (x : Addr) : String :=
  String.ofList (['.'].intercalate [octetText x.a, octetText x.b, octetText x.c, octetText x.d])

/-- A number of decimal digits. -/
def parseDigits (l : List Char) : Option Nat :=
  if l ≠ [] ∧ l.all Char.isDigit then some (l.foldl (fun n c => 10 * n + (c.toNat - 48)) 0) else none

/-- One octet: at most 255 and without a leading zero. -/
def parseOctet (l : List Char) : Option (Fin 256) :=
  match parseDigits l with
  | none => none
  | some n =>
      if h : n < 256 then
        if l.head? = some '0' ∧ l.length ≠ 1 then none else some ⟨n, h⟩
      else none

def parseAddr (l : List Char) : Option Addr :=
  match l.splitOn '.' with
  | [a, b, c, d] => do
      let a ← parseOctet a
      let b ← parseOctet b
      let c ← parseOctet c
      let d ← parseOctet d
      return ⟨a, b, c, d⟩
  | _ => none

theorem parseOctet_octetText : ∀ o : Fin 256, parseOctet (octetText o) = some o := by
  decide +kernel

theorem octetText_digits (o : Fin 256) : ∀ c ∈ octetText o, c.isDigit = true := by
  have hall : ∀ o : Fin 256, (octetText o).all Char.isDigit = true := by decide +kernel
  exact List.all_eq_true.mp (hall o)

theorem dot_notMem_octetText (o : Fin 256) : '.' ∉ octetText o := fun h =>
  absurd (octetText_digits o '.' h) (by decide)

theorem parseAddr_text (x : Addr) : parseAddr x.text.toList = some x := by
  have hsplit : x.text.toList.splitOn '.' =
      [octetText x.a, octetText x.b, octetText x.c, octetText x.d] := by
    rw [Addr.text, String.toList_ofList]
    refine List.splitOn_intercalate '.' ?_ (by simp)
    intro l hl
    simp only [List.mem_cons, List.not_mem_nil, or_false] at hl
    rcases hl with rfl | rfl | rfl | rfl <;> exact dot_notMem_octetText _
  simp only [parseAddr, hsplit, parseOctet_octetText]
  rfl

theorem Addr.text_injective {x y : Addr} (h : x.text = y.text) : x = y := by
  have hx := parseAddr_text x
  rw [h, parseAddr_text] at hx
  exact (Option.some.inj hx).symm

theorem Addr.text_chars (x : Addr) : ∀ c ∈ x.text.toList, c.isDigit = true ∨ c = '.' := by
  intro c hc
  simp only [Addr.text, String.toList_ofList, List.intercalate, List.intersperse,
    List.flatten_cons, List.flatten_nil, List.append_nil, List.mem_append, List.mem_cons,
    List.not_mem_nil, or_false] at hc
  rcases hc with h | rfl | h | rfl | h | rfl | h
  · exact Or.inl (octetText_digits _ c h)
  · exact Or.inr rfl
  · exact Or.inl (octetText_digits _ c h)
  · exact Or.inr rfl
  · exact Or.inl (octetText_digits _ c h)
  · exact Or.inr rfl
  · exact Or.inl (octetText_digits _ c h)

/-- So it differs from every text with another character in it. -/
theorem Addr.text_ne {x : Addr} {s : String} {c : Char} (hc : c ∈ s.toList)
    (hdigit : c.isDigit = false) (hdot : c ≠ '.') : x.text ≠ s := by
  rintro rfl
  rcases x.text_chars c hc with h | h
  · rw [hdigit] at h
    cases h
  · exact hdot h

/-! ## Ranges -/

/-- A range: an address in it and the number of leading bits its addresses share. -/
structure Cidr where
  addr : Addr
  len : Nat
  len_le : len ≤ 32
  deriving DecidableEq, Repr

/-- `net.ParseCIDR` for IPv4. -/
def parseCIDR (s : String) : Option Cidr :=
  let l := s.toList
  match l.idxOf? '/' with
  | none => none
  | some i =>
      match parseAddr (l.take i), parseDigits (l.drop (i + 1)) with
      | some addr, some len => if h : len ≤ 32 then some ⟨addr, len, h⟩ else none
      | _, _ => none

namespace Cidr

variable (r : Cidr)

/-- The number of addresses in the range. -/
def size : Nat := 2 ^ (32 - r.len)

/-- The number of the network's address, the first of the range. -/
def network : Nat := r.addr.toNat / r.size * r.size

/-- The first usable address. -/
def first : Addr := .ofNat (r.network + 1)

def Contains (x : Addr) : Prop := x.toNat / r.size = r.addr.toNat / r.size

instance (x : Addr) : Decidable (r.Contains x) := inferInstanceAs (Decidable (_ = _))

theorem size_pos : 0 < r.size := Nat.two_pow_pos _

theorem size_mul_two_pow : r.size * 2 ^ r.len = 2 ^ 32 := by
  rw [size, ← Nat.pow_add, Nat.sub_add_cancel r.len_le]

theorem addr_lt : r.addr.toNat < 2 ^ 32 := by
  simp only [Addr.toNat]
  omega

theorem network_add_size_le : r.network + r.size ≤ 2 ^ 32 := by
  have hlt : r.addr.toNat / r.size < 2 ^ r.len := by
    rw [Nat.div_lt_iff_lt_mul r.size_pos, Nat.mul_comm, r.size_mul_two_pow]
    exact r.addr_lt
  calc r.network + r.size = (r.addr.toNat / r.size + 1) * r.size := by
        rw [network, Nat.add_mul, Nat.one_mul]
    _ ≤ 2 ^ r.len * r.size := Nat.mul_le_mul_right _ hlt
    _ = 2 ^ 32 := by rw [Nat.mul_comm, r.size_mul_two_pow]

theorem toNat_first (h : 2 ≤ r.size) : r.first.toNat = r.network + 1 :=
  Addr.toNat_ofNat (by have := r.network_add_size_le; omega)

variable {r}

theorem Contains.network_le {x : Addr} (h : r.Contains x) : r.network ≤ x.toNat := by
  rw [network, ← h]
  exact Nat.div_mul_le_self _ _

end Cidr

end Ipv4
