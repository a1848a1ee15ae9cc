import Mathlib.Data.Rat.Defs
import Mathlib.Data.Nat.Bitwise
import Mathlib.Tactic.Linarith
import Mathlib.Algebra.Order.Ring.Rat
import Mathlib.Data.Nat.Cast.Order.Basic

/-! Near duplicates by fingerprint (`smart-crusher/adaptive-sizer.ts`): the clusters found through four
blocks of a fingerprint are those of the plain greedy clustering.
-/

set_option autoImplicit false

namespace SpaceApp.Gateway.Compression

def pairSums (x : BitVec 32) : BitVec 32 := x - ((x >>> 1) &&& 0x55555555#32)
def nibbleSums (v : BitVec 32) : BitVec 32 := (v &&& 0x33333333#32) + ((v >>> 2) &&& 0x33333333#32)

/-- The product of `popcount32` stays an exact integer, so its low 32 bits are those of the doubles. -/
def popcount32 (x : BitVec 32) : BitVec 32 :=
  let v := nibbleSums (pairSums x)
  (((v + (v >>> 4)) &&& 0x0f0f0f0f#32) * 0x01010101#32) >>> 24

def word (first second third fourth : ℕ) : ℕ := first + 256 * (second + 256 * (third + 256 * fourth))

theorem land_byte (x mask : ℕ) : x &&& mask = (x % 256 &&& mask % 256) + 256 * (x / 256 &&& mask / 256) := by
  have low : (x &&& mask) % 256 = x % 256 &&& mask % 256 := Nat.and_mod_two_pow (n := 8)
  have high : (x &&& mask) / 256 = x / 256 &&& mask / 256 := Nat.and_div_two_pow (n := 8)
  rw [← low, ← high, Nat.mod_add_div]

theorem land_word {first second third fourth mask : ℕ} (small : first < 256) (small2 : second < 256)
    (small3 : third < 256) (byte : mask < 256) : word first second third fourth &&& word mask mask mask mask =
      word (first &&& mask) (second &&& mask) (third &&& mask) (fourth &&& mask) := by
  have split : ∀ low rest low' rest' : ℕ, low < 256 → low' < 256 →
      (low + 256 * rest) &&& (low' + 256 * rest') = (low &&& low') + 256 * (rest &&& rest') := by
    intro low rest low' rest' small small'
    have first : (low + 256 * rest) % 256 = low ∧ (low + 256 * rest) / 256 = rest := by omega
    have second : (low' + 256 * rest') % 256 = low' ∧ (low' + 256 * rest') / 256 = rest' := by omega
    rw [land_byte, first.1, first.2, second.1, second.2]
  simp only [word]
  rw [split _ _ _ _ small byte, split _ _ _ _ small2 byte, split _ _ _ _ small3 byte]

theorem exists_word (x : BitVec 32) : ∃ a b c d, a < 256 ∧ b < 256 ∧ c < 256 ∧ d < 256 ∧ x.toNat = word a b c d := by
  refine ⟨x.toNat % 256, x.toNat / 256 % 256, x.toNat / 65536 % 256, x.toNat / 16777216, ?_, ?_, ?_, ?_, ?_⟩
  · omega
  · omega
  · omega
  · omega
  · simp only [word]
    omega

def bytePairs (b : ℕ) : ℕ := b - (b / 2 &&& 0x55)
def byteNibbles (v : ℕ) : ℕ := (v &&& 0x33) + (v / 4 &&& 0x33)

theorem byte_facts : ∀ b < 256,
    (∀ c < 2, (b / 2 + 128 * c) &&& 0x55 = b / 2 &&& 0x55) ∧ b / 2 &&& 0x55 ≤ b ∧
      (∀ c < 4, (bytePairs b / 4 + 64 * c) &&& 0x33 = bytePairs b / 4 &&& 0x33) ∧ byteNibbles (bytePairs b) < 256 ∧
      byteNibbles (bytePairs b) % 16 ≤ 4 ∧ byteNibbles (bytePairs b) / 16 ≤ 4 ∧
      byteNibbles (bytePairs b) % 16 + byteNibbles (bytePairs b) / 16 = (BitVec.ofNat 8 b).cpop.toNat := by
  decide +kernel

theorem pairSums_word {x : BitVec 32} {a b c d : ℕ} (ha : a < 256) (hb : b < 256) (hc : c < 256) (hd : d < 256)
    (bytes : x.toNat = word a b c d) :
    (pairSums x).toNat = word (bytePairs a) (bytePairs b) (bytePairs c) (bytePairs d) := by
  obtain ⟨shift_a, less_a, _⟩ := byte_facts a ha
  obtain ⟨shift_b, less_b, _⟩ := byte_facts b hb
  obtain ⟨shift_c, less_c, _⟩ := byte_facts c hc
  obtain ⟨shift_d, less_d, _⟩ := byte_facts d hd
  have halves : x.toNat / 2 = word (a / 2 + 128 * (b % 2)) (b / 2 + 128 * (c % 2)) (c / 2 + 128 * (d % 2)) (d / 2) := by
    rw [bytes]
    simp only [word]
    omega
  have masked : x.toNat / 2 &&& 0x55555555 =
      word (a / 2 &&& 0x55) (b / 2 &&& 0x55) (c / 2 &&& 0x55) (d / 2 &&& 0x55) := by
    have mask : 0x55555555 = word 0x55 0x55 0x55 0x55 := rfl
    rw [halves, mask, land_word (by omega) (by omega) (by omega) (by omega), shift_a _ (by omega),
      shift_b _ (by omega), shift_c _ (by omega)]
  have under : x.toNat / 2 &&& 0x55555555 ≤ x.toNat := by
    rw [masked, bytes]
    simp only [word]
    omega
  have part : ((x >>> 1) &&& 0x55555555#32).toNat = x.toNat / 2 &&& 0x55555555 := by
    rfl
  have ordered : (x >>> 1) &&& 0x55555555#32 ≤ x := by
    exact under
  rw [pairSums, BitVec.toNat_sub_of_le ordered, part, masked, bytes]
  simp only [word, bytePairs]
  omega

theorem bytePairs_le (b : ℕ) : bytePairs b ≤ b := Nat.sub_le _ _

theorem nibbleSums_word {v : BitVec 32} {a b c d : ℕ} (ha : a < 256) (hb : b < 256) (hc : c < 256) (hd : d < 256)
    (bytes : v.toNat = word (bytePairs a) (bytePairs b) (bytePairs c) (bytePairs d)) :
    (nibbleSums v).toNat = word (byteNibbles (bytePairs a)) (byteNibbles (bytePairs b)) (byteNibbles (bytePairs c))
      (byteNibbles (bytePairs d)) := by
  obtain ⟨_, _, shift_a, small_a, _⟩ := byte_facts a ha
  obtain ⟨_, _, shift_b, small_b, _⟩ := byte_facts b hb
  obtain ⟨_, _, shift_c, small_c, _⟩ := byte_facts c hc
  obtain ⟨_, _, shift_d, small_d, _⟩ := byte_facts d hd
  have less_a := bytePairs_le a
  have less_b := bytePairs_le b
  have less_c := bytePairs_le c
  have quarters : v.toNat / 4 = word (bytePairs a / 4 + 64 * (bytePairs b % 4)) (bytePairs b / 4 + 64 * (bytePairs c % 4))
      (bytePairs c / 4 + 64 * (bytePairs d % 4)) (bytePairs d / 4) := by
    rw [bytes]
    simp only [word]
    omega
  have mask : 0x33333333 = word 0x33 0x33 0x33 0x33 := rfl
  have shifted : v.toNat / 4 &&& 0x33333333 = word (bytePairs a / 4 &&& 0x33) (bytePairs b / 4 &&& 0x33)
      (bytePairs c / 4 &&& 0x33) (bytePairs d / 4 &&& 0x33) := by
    rw [quarters, mask, land_word (by omega) (by omega) (by omega) (by omega), shift_a _ (by omega),
      shift_b _ (by omega), shift_c _ (by omega)]
  have plain : v.toNat &&& 0x33333333 = word (bytePairs a &&& 0x33) (bytePairs b &&& 0x33) (bytePairs c &&& 0x33)
      (bytePairs d &&& 0x33) := by
    rw [bytes, mask, land_word (by omega) (by omega) (by omega) (by omega)]
  have left : (v &&& 0x33333333#32).toNat = v.toNat &&& 0x33333333 := by
    rfl
  have right : ((v >>> 2) &&& 0x33333333#32).toNat = v.toNat / 4 &&& 0x33333333 := by
    rw [BitVec.toNat_and, BitVec.toNat_ushiftRight, Nat.shiftRight_eq_div_pow]
    rfl
  rw [nibbleSums, BitVec.toNat_add, left, right, shifted, plain]
  simp only [byteNibbles] at small_a small_b small_c small_d ⊢
  simp only [word]
  omega

/-! The sum of the nibbles of each byte, and of the bytes. -/

theorem word_sixteenth (p q r t : ℕ) :
    word p q r t / 16 = word (p / 16 + 16 * (q % 16)) (q / 16 + 16 * (r % 16)) (r / 16 + 16 * (t % 16)) (t / 16) := by
  simp only [word]
  omega

theorem word_add (p q r t p' q' r' t' : ℕ) :
    word p q r t + word p' q' r' t' = word (p + p') (q + q') (r + r') (t + t') := by
  simp only [word]
  omega

theorem nibble_sum {p q : ℕ} (low : p % 16 ≤ 4) (high : p / 16 ≤ 4) (next : q % 16 ≤ 4) :
    (p + (p / 16 + 16 * (q % 16))) &&& 0x0f = p % 16 + p / 16 ∧ p + (p / 16 + 16 * (q % 16)) < 256 := by
  have masked : (p + (p / 16 + 16 * (q % 16))) &&& 0x0f = (p + (p / 16 + 16 * (q % 16))) % 16 :=
    Nat.and_two_pow_sub_one_eq_mod _ 4
  omega

theorem word_product {p q r t : ℕ} (hp : p < 16) (hq : q < 16) (hr : r < 16) (ht : t < 16) :
    word p q r t * 0x01010101 % 2 ^ 32 / 2 ^ 24 = t + (r + (q + p)) := by
  have product : word p q r t * 0x01010101 =
      (p + 256 * (p + q) + 65536 * (p + q + r)) + 2 ^ 24 * (t + (r + (q + p))) +
        2 ^ 32 * (q + r + t + 256 * (r + t) + 65536 * t) := by
    simp only [word]
    omega
  rw [product, Nat.add_mul_mod_self_left, Nat.mod_eq_of_lt (by omega), Nat.add_mul_div_left _ _ (by omega)]
  omega

theorem byteSums_word {v : BitVec 32} {p q r t : ℕ} (bytes : v.toNat = word p q r t) (low_p : p % 16 ≤ 4)
    (high_p : p / 16 ≤ 4) (low_q : q % 16 ≤ 4) (high_q : q / 16 ≤ 4) (low_r : r % 16 ≤ 4) (high_r : r / 16 ≤ 4)
    (low_t : t % 16 ≤ 4) (high_t : t / 16 ≤ 4) : ((v + (v >>> 4)) &&& 0x0f0f0f0f#32).toNat =
      word (p % 16 + p / 16) (q % 16 + q / 16) (r % 16 + r / 16) (t % 16 + t / 16) := by
  obtain ⟨sum_p, small_p⟩ := nibble_sum low_p high_p low_q
  obtain ⟨sum_q, small_q⟩ := nibble_sum low_q high_q low_r
  obtain ⟨sum_r, small_r⟩ := nibble_sum low_r high_r low_t
  obtain ⟨sum_t, small_t⟩ := nibble_sum low_t high_t (show 0 % 16 ≤ 4 by omega)
  simp only [Nat.zero_mod, Nat.mul_zero, Nat.add_zero] at sum_t small_t
  have fold : (v + (v >>> 4)).toNat = word (p + (p / 16 + 16 * (q % 16))) (q + (q / 16 + 16 * (r % 16)))
      (r + (r / 16 + 16 * (t % 16))) (t + t / 16) := by
    have shifted : (v >>> 4).toNat = v.toNat / 16 := by
      rw [BitVec.toNat_ushiftRight, Nat.shiftRight_eq_div_pow]
    rw [BitVec.toNat_add, shifted, bytes, word_sixteenth, word_add]
    refine Nat.mod_eq_of_lt ?_
    simp only [word]
    omega
  have mask : 0x0f0f0f0f = word 0x0f 0x0f 0x0f 0x0f := rfl
  have cut : ((v + (v >>> 4)) &&& 0x0f0f0f0f#32).toNat = (v + (v >>> 4)).toNat &&& 0x0f0f0f0f := by
    rfl
  rw [cut, fold, mask, land_word small_p small_q small_r (by omega), sum_p, sum_q, sum_r, sum_t]

theorem word_append {x : BitVec 32} {a b c d : ℕ} (ha : a < 256) (hb : b < 256) (hc : c < 256) (hd : d < 256)
    (bytes : x.toNat = word a b c d) :
    x = BitVec.ofNat 8 d ++ (BitVec.ofNat 8 c ++ (BitVec.ofNat 8 b ++ BitVec.ofNat 8 a)) := by
  refine BitVec.eq_of_toNat_eq ?_
  have below : ∀ low high width : ℕ, low < 2 ^ width → high <<< width ||| low = high * 2 ^ width + low := by
    intro low high width small
    rw [← Nat.shiftLeft_add_eq_or_of_lt small, Nat.shiftLeft_eq]
  have byte : ∀ b < 256, (BitVec.ofNat 8 b).toNat = b := fun b small => Nat.mod_eq_of_lt small
  rw [BitVec.toNat_append, BitVec.toNat_append, BitVec.toNat_append, byte a ha, byte b hb, byte c hc, byte d hd,
    below a b 8 ha, below _ c 16 (by omega), below _ d 24 (by omega), bytes]
  simp only [word]
  omega

theorem popcount32_toNat (x : BitVec 32) : (popcount32 x).toNat = x.cpop.toNat := by
  obtain ⟨a, b, c, d, ha, hb, hc, hd, bytes⟩ := exists_word x
  have sums := nibbleSums_word ha hb hc hd (pairSums_word ha hb hc hd bytes)
  obtain ⟨_, _, _, _, low_a, high_a, ones_a⟩ := byte_facts a ha
  obtain ⟨_, _, _, _, low_b, high_b, ones_b⟩ := byte_facts b hb
  obtain ⟨_, _, _, _, low_c, high_c, ones_c⟩ := byte_facts c hc
  obtain ⟨_, _, _, _, low_d, high_d, ones_d⟩ := byte_facts d hd
  have counts := byteSums_word sums low_a high_a low_b high_b low_c high_c low_d high_d
  rw [popcount32, BitVec.toNat_ushiftRight, BitVec.toNat_mul, counts, Nat.shiftRight_eq_div_pow]
  change word _ _ _ _ * 0x01010101 % 2 ^ 32 / 2 ^ 24 = _
  rw [word_product (by omega) (by omega) (by omega) (by omega), ones_a, ones_b, ones_c, ones_d,
    word_append ha hb hc hd bytes, BitVec.toNat_cpop_append, BitVec.toNat_cpop_append, BitVec.toNat_cpop_append]

structure Fingerprint where
  hi : BitVec 32
  lo : BitVec 32

def distance (left right : Fingerprint) : ℕ :=
  (popcount32 (left.hi ^^^ right.hi)).toNat + (popcount32 (left.lo ^^^ right.lo)).toNat

def Fingerprint.keys (fingerprint : Fingerprint) : List (BitVec 32) :=
  [fingerprint.lo &&& 0xffff#32, 0x10000#32 ||| (fingerprint.lo >>> 16), 0x20000#32 ||| (fingerprint.hi &&& 0xffff#32),
    0x30000#32 ||| (fingerprint.hi >>> 16)]

structure Clusters where
  reps : List Fingerprint
  buckets : BitVec 32 → List ℕ

def Clusters.file (clusters : Clusters) (number : ℕ) (keys : List (BitVec 32)) : BitVec 32 → List ℕ :=
  keys.foldl (fun buckets key => Function.update buckets key (buckets key ++ [number])) clusters.buckets

def Clusters.matched (clusters : Clusters) (threshold : ℚ) (fingerprint : Fingerprint) : Bool :=
  if threshold > 3 then clusters.reps.any fun rep => (distance fingerprint rep : ℚ) ≤ threshold
  else
    fingerprint.keys.any fun key =>
      (clusters.buckets key).any fun number =>
        clusters.reps[number]?.any fun rep => (distance fingerprint rep : ℚ) ≤ threshold

def Clusters.add (threshold : ℚ) (clusters : Clusters) (fingerprint : Fingerprint) : Clusters :=
  if clusters.matched threshold fingerprint then clusters
  else
    { reps := clusters.reps ++ [fingerprint]
      buckets :=
        if threshold > 3 then clusters.buckets
        else clusters.file clusters.reps.length fingerprint.keys }

def countUniqueSimhash {Item : Type} (simhash : Item → Fingerprint) (items : List Item) (threshold : ℚ) : ℕ :=
  ((items.map simhash).foldl (Clusters.add threshold) ⟨[], fun _ => []⟩).reps.length

def hammingDistance (left right : Fingerprint) : ℕ :=
  (left.hi ^^^ right.hi).cpop.toNat + (left.lo ^^^ right.lo).cpop.toNat

def greedyAdd (threshold : ℚ) (reps : List Fingerprint) (fingerprint : Fingerprint) : List Fingerprint :=
  if reps.any fun rep => (hammingDistance fingerprint rep : ℚ) ≤ threshold then reps else reps ++ [fingerprint]

/-- The representatives, each item compared with all earlier ones. -/
def greedyReps {Item : Type} (simhash : Item → Fingerprint) (items : List Item) (threshold : ℚ) : List Fingerprint :=
  (items.map simhash).foldl (greedyAdd threshold) []

theorem distance_hamming (left right : Fingerprint) : distance left right = hammingDistance left right := by
  rw [distance, popcount32_toNat, popcount32_toNat, hammingDistance]

/-! Fingerprints that differ in all four blocks differ in four bits. -/

theorem cpop_pos {width : ℕ} {x : BitVec width} (filled : x ≠ BitVec.ofNat width 0) : 0 < x.cpop.toNat := by
  induction width with
  | zero => exact absurd (BitVec.eq_nil x ▸ rfl) filled
  | succ width ih =>
    rw [← BitVec.cons_msb_setWidth x, BitVec.toNat_cpop_cons]
    cases msb : x.msb with
    | true => simp
    | false =>
      have rest : x.setWidth width ≠ BitVec.ofNat width 0 := by
        intro empty
        refine filled ?_
        rw [← BitVec.cons_msb_setWidth x, msb, empty]
        simp
      have positive := ih rest
      omega

theorem append_toNat (high low : BitVec 16) : (high ++ low).toNat = high.toNat * 65536 + low.toNat := by
  rw [BitVec.toNat_append, ← Nat.shiftLeft_add_eq_or_of_lt low.isLt, Nat.shiftLeft_eq]

theorem halves (x : BitVec 32) : x = (x >>> 16).setWidth 16 ++ x.setWidth 16 := by
  refine BitVec.eq_of_toNat_eq ?_
  rw [append_toNat, BitVec.toNat_setWidth, BitVec.toNat_setWidth, BitVec.toNat_ushiftRight, Nat.shiftRight_eq_div_pow]
  omega

theorem cpop_halves {x y : BitVec 32} (low : x &&& 0xffff#32 ≠ y &&& 0xffff#32) (high : x >>> 16 ≠ y >>> 16) :
    2 ≤ (x ^^^ y).cpop.toNat := by
  have low_part : (x ^^^ y).setWidth 16 ≠ 0#16 := by
    intro empty
    refine low ?_
    have zero := congrArg BitVec.toNat empty
    have masked : (x ^^^ y) &&& 0xffff#32 = 0#32 := by
      refine BitVec.eq_of_toNat_eq ?_
      have mask : (x ^^^ y).toNat &&& 65535 = (x ^^^ y).toNat % 65536 := Nat.and_two_pow_sub_one_eq_mod _ 16
      change (x ^^^ y).toNat &&& 65535 = 0
      rw [mask]
      exact zero
    have split : (x ^^^ y) &&& 0xffff#32 = (x &&& 0xffff#32) ^^^ (y &&& 0xffff#32) := by
      ext bit inside
      simp [Bool.and_xor_distrib_right]
    exact BitVec.xor_eq_zero_iff.mp (split ▸ masked)
  have high_part : ((x ^^^ y) >>> 16).setWidth 16 ≠ 0#16 := by
    intro empty
    refine high ?_
    have zero := congrArg BitVec.toNat empty
    rw [BitVec.toNat_setWidth, BitVec.toNat_ushiftRight, Nat.shiftRight_eq_div_pow, BitVec.toNat_ofNat] at zero
    have shifted : (x ^^^ y) >>> 16 = 0#32 := by
      refine BitVec.eq_of_toNat_eq ?_
      rw [BitVec.toNat_ushiftRight, Nat.shiftRight_eq_div_pow]
      change _ = 0
      omega
    rw [BitVec.ushiftRight_xor_distrib] at shifted
    exact BitVec.xor_eq_zero_iff.mp shifted
  have first := cpop_pos low_part
  have second := cpop_pos high_part
  rw [halves (x ^^^ y), BitVec.toNat_cpop_append]
  omega

/-- The pigeonhole: fingerprints near each other share a block. -/
theorem shares_key {left right : Fingerprint} (near : hammingDistance left right ≤ 3) :
    ∃ key ∈ left.keys, key ∈ right.keys := by
  by_contra apart
  simp only [Fingerprint.keys, List.mem_cons, List.not_mem_nil, or_false, not_exists, not_and, not_or] at apart
  have low_lo := (apart _ (.inl rfl)).1
  have high_lo : left.lo >>> 16 ≠ right.lo >>> 16 := by
    intro same
    exact (apart _ (.inr (.inl rfl))).2.1 (by rw [same])
  have low_hi : left.hi &&& 0xffff#32 ≠ right.hi &&& 0xffff#32 := by
    intro same
    exact (apart _ (.inr (.inr (.inl rfl)))).2.2.1 (by rw [same])
  have high_hi : left.hi >>> 16 ≠ right.hi >>> 16 := by
    intro same
    exact (apart _ (.inr (.inr (.inr rfl)))).2.2.2 (by rw [same])
  have lo := cpop_halves low_lo high_lo
  have hi := cpop_halves low_hi high_hi
  simp only [hammingDistance] at near
  omega

/-- Each representative is filed under all of its blocks, and nothing else is. -/
def Filed (clusters : Clusters) : Prop :=
  ∀ key number, number ∈ clusters.buckets key ↔ ∃ rep, clusters.reps[number]? = some rep ∧ key ∈ rep.keys

theorem mem_file (clusters : Clusters) (number : ℕ) (keys : List (BitVec 32)) (key : BitVec 32) (other : ℕ) :
    other ∈ clusters.file number keys key ↔ other ∈ clusters.buckets key ∨ (other = number ∧ key ∈ keys) := by
  rw [Clusters.file]
  generalize clusters.buckets = buckets
  induction keys generalizing buckets with
  | nil => simp
  | cons first rest ih =>
    rw [List.foldl_cons, ih]
    by_cases same : key = first
    · subst same
      simp only [Function.update_self, List.mem_append, List.mem_cons, List.not_mem_nil, or_false, true_or, and_true]
      constructor
      · rintro ((old | new) | later)
        · exact .inl old
        · exact .inr new
        · exact .inr later.1
      · rintro (old | new)
        · exact .inl (.inl old)
        · exact .inl (.inr new)
    · simp [same]

theorem filed_add {threshold : ℚ} (small : threshold ≤ 3) {clusters : Clusters} (filed : Filed clusters)
    (fingerprint : Fingerprint) : Filed (clusters.add threshold fingerprint) := by
  rw [Clusters.add]
  split
  · exact filed
  · intro key number
    simp only [not_lt.mpr small, if_false, mem_file, filed key number]
    constructor
    · rintro (⟨rep, found, member⟩ | ⟨rfl, member⟩)
      · have bound := (List.getElem?_eq_some_iff.mp found).1
        exact ⟨rep, by rw [List.getElem?_append_left bound]; exact found, member⟩
      · exact ⟨fingerprint, List.getElem?_concat_length, member⟩
    · rintro ⟨rep, found, member⟩
      by_cases bound : number < clusters.reps.length
      · rw [List.getElem?_append_left bound] at found
        exact .inl ⟨rep, found, member⟩
      · have last : number = clusters.reps.length := by
          have inside := (List.getElem?_eq_some_iff.mp found).1
          simp only [List.length_append, List.length_singleton] at inside
          omega
        rw [last, List.getElem?_concat_length, Option.some.injEq] at found
        exact .inr ⟨last, found ▸ member⟩

/-- The representatives that share a block are all that can be near. -/
theorem matched_any {threshold : ℚ} {clusters : Clusters} (filed : threshold ≤ 3 → Filed clusters)
    (fingerprint : Fingerprint) : clusters.matched threshold fingerprint =
      clusters.reps.any fun rep => (hammingDistance fingerprint rep : ℚ) ≤ threshold := by
  simp only [Clusters.matched, distance_hamming]
  split
  · rfl
  · next small =>
    have filed := filed (not_lt.mp small)
    rw [Bool.eq_iff_iff]
    simp only [List.any_eq_true, decide_eq_true_eq]
    constructor
    · rintro ⟨key, _, number, _, found⟩
      obtain ⟨rep, there, near⟩ := (Option.any_eq_true _ _).mp found
      exact ⟨rep, List.mem_of_getElem? there, by simpa using near⟩
    · rintro ⟨rep, member, near⟩
      have close : hammingDistance fingerprint rep ≤ 3 := by
        have bound : (hammingDistance fingerprint rep : ℚ) ≤ 3 := near.trans (not_lt.mp small)
        exact_mod_cast bound
      obtain ⟨key, mine, its⟩ := shares_key close
      obtain ⟨number, there⟩ := List.getElem?_of_mem member
      exact ⟨key, mine, number, (filed key number).mpr ⟨rep, there, its⟩, by simpa [there] using near⟩

theorem foldl_reps (threshold : ℚ) (fingerprints : List Fingerprint) {clusters : Clusters}
    (filed : threshold ≤ 3 → Filed clusters) : (fingerprints.foldl (Clusters.add threshold) clusters).reps =
      fingerprints.foldl (greedyAdd threshold) clusters.reps := by
  induction fingerprints generalizing clusters with
  | nil => rfl
  | cons fingerprint rest ih =>
    have step : (clusters.add threshold fingerprint).reps = greedyAdd threshold clusters.reps fingerprint := by
      rw [Clusters.add, greedyAdd, matched_any filed]
      split <;> rfl
    rw [List.foldl_cons, List.foldl_cons, ih fun small => filed_add small (filed small) fingerprint, step]

/-- The bucketed count is that of the plain greedy clustering, for every threshold. -/
theorem countUniqueSimhash_greedy {Item : Type} (simhash : Item → Fingerprint) (items : List Item) (threshold : ℚ) :
    countUniqueSimhash simhash items threshold = (greedyReps simhash items threshold).length := by
  have filed : threshold ≤ 3 → Filed ⟨[], fun _ => []⟩ := by
    intro _ key number
    simp
  rw [countUniqueSimhash, greedyReps, foldl_reps threshold _ filed]

end SpaceApp.Gateway.Compression
