import Hiwis.Lib.Trace

/-!
# Octets in memory

Numbers as big-endian octets, and memories into which octets are stored.

* `ofOctets_toOctets` : a number that fits is read back;
* `Memory.load_store`, `Memory.load_store_of_disjoint` : what is read after a store.
-/

namespace Hiwis

open List Option

/-! ### Big-endian numbers -/

/-- The last `n` octets of a number, the most significant one first. -/
def toOctets : ℕ → ℕ → List UInt8
  | 0, _ => []
  | n + 1, v => UInt8.ofNat (v / 256 ^ n) :: toOctets n v

/-- The number that octets stand for. -/
def ofOctets (l : List UInt8) : ℕ := l.foldl (fun v b => v * 256 + b.toNat) 0

@[simp] theorem toOctets_length (n v : ℕ) : (toOctets n v).length = n := by
  induction n with
  | zero => rfl
  | succ n ih => simp [toOctets, ih]

theorem foldl_octets (l : List UInt8) (acc : ℕ) :
    l.foldl (fun v b => v * 256 + b.toNat) acc = acc * 256 ^ l.length + ofOctets l := by
  induction l generalizing acc with
  | nil => simp [ofOctets]
  | cons b l ih =>
    have hcons : ofOctets (b :: l) = (0 * 256 + b.toNat) * 256 ^ l.length + ofOctets l := ih _
    rw [foldl_cons, ih, hcons, length_cons, pow_succ]
    ring

theorem ofOctets_cons (b : UInt8) (l : List UInt8) :
    ofOctets (b :: l) = b.toNat * 256 ^ l.length + ofOctets l := by
  rw [ofOctets, foldl_cons, foldl_octets, Nat.zero_mul, Nat.zero_add]

theorem ofOctets_toOctets_mod (n v : ℕ) : ofOctets (toOctets n v) = v % 256 ^ n := by
  induction n with
  | zero => simp [toOctets, ofOctets, Nat.mod_one]
  | succ n ih =>
    rw [toOctets, ofOctets_cons, ih, toOctets_length, Nat.mod_pow_succ, UInt8.toNat_ofNat']
    ring

@[simp] theorem ofOctets_toOctets {n v : ℕ} (h : v < 256 ^ n) : ofOctets (toOctets n v) = v := by
  rw [ofOctets_toOctets_mod, Nat.mod_eq_of_lt h]

@[simp] theorem uint16_octets (x : UInt16) : UInt16.ofNat (ofOctets (toOctets 2 x.toNat)) = x := by
  rw [ofOctets_toOctets (n := 2) x.toNat_lt, UInt16.ofNat_toNat]

@[simp] theorem bitVec_octets (x : BitVec 32) :
    BitVec.ofNat 32 (ofOctets (toOctets 4 x.toNat)) = x := by
  rw [ofOctets_toOctets (n := 4) x.isLt, BitVec.ofNat_toNat, BitVec.setWidth_eq]

/-- The octets, the least significant one taken off. -/
theorem toOctets_succ (n v : ℕ) : toOctets (n + 1) v = toOctets n (v / 256) ++ [UInt8.ofNat v] := by
  induction n with
  | zero => simp [toOctets]
  | succ n ih =>
    rw [toOctets, ih, toOctets, cons_append, Nat.div_div_eq_div_mul, ← pow_succ']

theorem ofOctets_lt (l : List UInt8) : ofOctets l < 256 ^ l.length := by
  induction l with
  | nil => simp [ofOctets]
  | cons b l ih =>
    have hb : b.toNat + 1 ≤ 256 := b.toNat_lt
    rw [ofOctets_cons, length_cons, pow_succ]
    calc b.toNat * 256 ^ l.length + ofOctets l
        < b.toNat * 256 ^ l.length + 256 ^ l.length := Nat.add_lt_add_left ih _
      _ = (b.toNat + 1) * 256 ^ l.length := by ring
      _ ≤ 256 * 256 ^ l.length := Nat.mul_le_mul_right _ hb
      _ = 256 ^ l.length * 256 := Nat.mul_comm ..

/-! ### Memories -/

/-- A memory: the octet at each address. -/
abbrev Memory : Type := ℕ → UInt8

namespace Memory

/-- The memory after octets have been stored from an address on. -/
def store (m : Memory) (addr : ℕ) (l : List UInt8) : Memory :=
  fun a => if addr ≤ a then (l[a - addr]?).getD (m a) else m a

/-- The `n` octets from an address on. -/
def load (m : Memory) (addr n : ℕ) : List UInt8 := (range' addr n).map m

/-- The memory from an address on. -/
def tail (m : Memory) (addr : ℕ) : Memory := fun a => m (addr + a)

/-- The memory, with another one from an address on. -/
def within (m : Memory) (addr : ℕ) (m' : Memory) : Memory :=
  fun a => if a < addr then m a else m' (a - addr)

variable (m : Memory) {addr a n k : ℕ} (l l' : List UInt8)

theorem store_of_lt (h : a < addr) : m.store addr l a = m a := if_neg h.not_ge

theorem store_of_le (h : addr + l.length ≤ a) : m.store addr l a = m a := by
  rw [store, if_pos (by omega), getElem?_eq_none (by omega), getD_none]

theorem store_add (h : k < l.length) : m.store addr l (addr + k) = l[k] := by
  rw [store, if_pos (Nat.le_add_right ..), Nat.add_sub_cancel_left, getElem?_eq_getElem h,
    getD_some]

@[simp] theorem store_singleton (addr : ℕ) (b : UInt8) : m.store addr [b] addr = b :=
  m.store_add [b] (k := 0) Nat.one_pos

@[simp] theorem store_nil (addr : ℕ) : m.store addr [] = m := by
  funext a
  simp [store]

theorem store_append (addr : ℕ) :
    m.store addr (l ++ l') = (m.store addr l).store (addr + l.length) l' := by
  funext a
  by_cases hlt : a < addr + l.length
  · rw [store_of_lt _ _ hlt]
    by_cases hle : addr ≤ a
    · obtain ⟨k, rfl⟩ := Nat.exists_eq_add_of_le hle
      rw [store_add _ _ (by simp; omega), store_add _ _ (by omega), getElem_append_left]
    · rw [store_of_lt _ _ (by omega), store_of_lt _ _ (by omega)]
  · obtain ⟨k, rfl⟩ := Nat.exists_eq_add_of_le (not_lt.1 hlt)
    by_cases hk : k < l'.length
    · rw [store_add _ _ hk, Nat.add_assoc, store_add _ _ (by simp; omega),
        getElem_append_right (by omega)]
      simp
    · rw [store_of_le _ _ (by simp; omega), store_of_le _ _ (by omega), store_of_le _ _ (by omega)]

/-- A store replaces the store of as many octets before it. -/
theorem store_store (addr : ℕ) (h : l.length = l'.length) :
    (m.store addr l).store addr l' = m.store addr l' := by
  funext a
  by_cases ha : addr ≤ a
  · obtain ⟨k, rfl⟩ := Nat.exists_eq_add_of_le ha
    by_cases hk : k < l'.length
    · rw [store_add _ _ hk, store_add _ _ hk]
    · rw [store_of_le _ _ (by omega), store_of_le _ _ (by omega), store_of_le _ _ (by omega)]
  · rw [store_of_lt _ _ (by omega), store_of_lt _ _ (by omega), store_of_lt _ _ (by omega)]

variable {addr' : ℕ}

/-- Stores at different addresses commute. -/
theorem store_comm (h : addr + l.length ≤ addr' ∨ addr' + l'.length ≤ addr) :
    (m.store addr l).store addr' l' = (m.store addr' l').store addr l := by
  funext a
  unfold store
  split_ifs with hle' hle
  · by_cases hlt : a - addr < l.length
    · rw [getElem?_eq_none (by omega : l'.length ≤ a - addr'), getD_none,
        getElem?_eq_getElem hlt]
      rfl
    · rw [getElem?_eq_none (by omega : l.length ≤ a - addr), getD_none, getD_none]
  · rfl
  · rfl
  · rfl

@[simp] theorem load_length (addr n : ℕ) : (m.load addr n).length = n := by simp [load]

theorem load_getElem (h : k < (m.load addr n).length) : (m.load addr n)[k] = m (addr + k) := by
  simp [load]

theorem load_congr {m m' : Memory} (h : ∀ k < n, m (addr + k) = m' (addr + k)) :
    m.load addr n = m'.load addr n := by
  refine ext_getElem (by simp) fun k hk hk' => ?_
  rw [load_getElem, load_getElem]
  exact h k (by simpa using hk)

/-- What has been stored is read back. -/
@[simp] theorem load_store (addr : ℕ) : (m.store addr l).load addr l.length = l := by
  refine ext_getElem (by simp) fun k hk hk' => ?_
  rw [load_getElem, store_add _ _ hk']

theorem load_store_of_length (h : l.length = n) : (m.store addr l).load addr n = l := by
  rw [← h, load_store]

/-- A store elsewhere changes nothing. -/
theorem load_store_of_disjoint (h : a + n ≤ addr ∨ addr + l.length ≤ a) :
    (m.store addr l).load a n = m.load a n := by
  refine load_congr fun k hk => ?_
  rcases h with h | h
  · exact store_of_lt _ _ (by omega)
  · exact store_of_le _ _ (by omega)

theorem within_of_lt (m' : Memory) (h : a < addr) : m.within addr m' a = m a := if_pos h

@[simp] theorem within_tail (m' : Memory) (addr : ℕ) : (m.within addr m').tail addr = m' := by
  funext a
  rw [tail, within, if_neg (by omega), Nat.add_sub_cancel_left]

theorem load_within (m' : Memory) (h : a + n ≤ addr) :
    (m.within addr m').load a n = m.load a n :=
  load_congr fun k hk => m.within_of_lt m' (by omega)

/-- A store in the front part leaves the rest alone. -/
theorem tail_store_of_le (h : addr' + l.length ≤ addr) :
    (m.store addr' l).tail addr = m.tail addr := by
  funext a
  exact m.store_of_le l (by omega)

theorem load_add (addr n k : ℕ) : m.load addr (n + k) = m.load addr n ++ m.load (addr + n) k := by
  rw [load, load, load, ← map_append, range'_append_1]

theorem load_take (addr : ℕ) (h : k ≤ n) : (m.load addr n).take k = m.load addr k := by
  obtain ⟨r, rfl⟩ := Nat.exists_eq_add_of_le h
  rw [load_add, take_left' (by simp)]

/-- A part of what is read. -/
theorem load_part {m : Memory} (pre mid post : List UInt8)
    (h : m.load addr n = pre ++ mid ++ post) : m.load (addr + pre.length) mid.length = mid := by
  have hn : n = pre.length + mid.length + post.length := by
    have := congrArg List.length h
    simpa [Nat.add_assoc] using this
  subst hn
  rw [load_add, load_add] at h
  have hfront := (append_inj h (by simp)).1
  exact (append_inj hfront (by simp)).2

end Memory

/-! ### Reading that may fail -/

theorem mapM_ok {ε α β : Type} (f : α → β) (l : List α) :
    l.mapM (fun a => (.ok (f a) : Except ε β)) = .ok (l.map f) :=
  mapM_pure

/-- The `n` octets from an address on, read one by one. -/
def fetch {ε : Type} (rd : ℕ → Except ε UInt8) (addr n : ℕ) : Except ε (List UInt8) :=
  (range' addr n).mapM rd

@[simp] theorem fetch_ok {ε : Type} (m : Memory) (addr n : ℕ) :
    fetch (fun a => (.ok (m a) : Except ε UInt8)) addr n = .ok (m.load addr n) :=
  mapM_ok m _

section Fetch

variable {ε : Type} {rd rd' : ℕ → Except ε UInt8} {addr n : ℕ} {l : List UInt8}

theorem fetch_succ (rd : ℕ → Except ε UInt8) (addr n : ℕ) : fetch rd addr (n + 1) =
    rd addr >>= fun b => fetch rd (addr + 1) n >>= fun l => pure (b :: l) := by
  rw [fetch, range'_succ, mapM_cons]
  rfl

theorem fetch_congr (h : ∀ k < n, rd (addr + k) = rd' (addr + k)) :
    fetch rd addr n = fetch rd' addr n := by
  induction n generalizing addr with
  | zero => rfl
  | succ n ih =>
    have hrest : fetch rd (addr + 1) n = fetch rd' (addr + 1) n := by
      refine ih fun k hk => ?_
      rw [Nat.add_right_comm]
      exact h (k + 1) (by omega)
    rw [fetch_succ, fetch_succ, hrest, show rd addr = rd' addr from h 0 (by omega)]

/-- Every octet is read. -/
theorem of_fetch_ok (h : fetch rd addr n = .ok l) :
    l.length = n ∧ ∀ k < n, ∃ b, rd (addr + k) = .ok b := by
  induction n generalizing addr l with
  | zero =>
    cases h
    exact ⟨rfl, fun k hk => absurd hk (Nat.not_lt_zero k)⟩
  | succ n ih =>
    rw [fetch_succ] at h
    obtain ⟨b, hb, h⟩ := Except.bind_eq_ok.1 h
    obtain ⟨l', hl', h⟩ := Except.bind_eq_ok.1 h
    cases h
    obtain ⟨hlen, hrest⟩ := ih hl'
    refine ⟨by rw [length_cons, hlen], fun k hk => ?_⟩
    cases k with
    | zero => exact ⟨b, hb⟩
    | succ k =>
      rw [← Nat.add_assoc, Nat.add_right_comm]
      exact hrest k (by omega)

end Fetch

end Hiwis
