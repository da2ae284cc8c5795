/-
  TelegramTd.Utils.As

  `td::as` (tdutils/td/utils/as.h): a typed view of raw memory.  `as<T>(ptr)`
  gives an `As<T>`; assigning a `T` to it copies the value's bytes to `ptr`,
  reading it copies `sizeof(T)` bytes from `ptr` into a fresh `T`, and
  assigning another view to it copies the bytes between the two addresses.
  `ConstAs<T>` is the read-only view of a `const` pointer.

  Memory is a map from byte addresses to bytes.  A trivially copyable type is
  its object representation (`TriviallyCopyable`): `sizeof(T)` bytes, at
  least one, from which the value is read back.  `std::memcpy` is undefined
  on overlapping ranges; the model returns `none` there.

  Over the bytes, the objects a program keeps there: views of one type at
  disjoint addresses (`Layout`), each holding a value.  `as_refines_objects`
  shows that every sequence of writes through the views behaves as
  assignments to those objects and touches no other byte.
-/

import TelegramTd.Basic

namespace TelegramTd
namespace Utils

/-- Byte-addressed memory. -/
abbrev Memory := Nat → UInt8

-- ============================================================================
-- Bytes and `memcpy`
-- ============================================================================

/-- The `n` bytes at `p`. -/
def readBytes (m : Memory) (p n : Nat) : List UInt8 :=
  (List.range n).map fun i => m (p + i)

/-- `bytes` stored at `p`. -/
def writeBytes (m : Memory) (p : Nat) (bytes : List UInt8) : Memory :=
  fun a => if p ≤ a ∧ a < p + bytes.length then bytes.getD (a - p) 0 else m a

/-- Two ranges of `n` bytes that do not overlap. -/
def Disjoint (p q n : Nat) : Prop := p + n ≤ q ∨ q + n ≤ p

/-- `std::memcpy(dst, src, n)`; undefined (`none`) when the two ranges overlap. -/
def memcpy (m : Memory) (dst src n : Nat) : Option Memory :=
  if dst < src + n ∧ src < dst + n then none else some (writeBytes m dst (readBytes m src n))

section Bytes

variable {m : Memory} {p q n : Nat} {bytes : List UInt8}

@[simp] theorem length_readBytes (m : Memory) (p n : Nat) : (readBytes m p n).length = n := by
  simp [readBytes]

/-- Reading sees only the bytes it reads. -/
theorem readBytes_congr {m' : Memory} (h : ∀ i < n, m (p + i) = m' (p + i)) :
    readBytes m p n = readBytes m' p n :=
  List.map_congr_left fun i hi => h i (List.mem_range.mp hi)

theorem writeBytes_of_not_mem {a : Nat} (h : a < p ∨ p + bytes.length ≤ a) :
    writeBytes m p bytes a = m a :=
  if_neg (by omega)

theorem readBytes_writeBytes_self (m : Memory) (p : Nat) (bytes : List UInt8) :
    readBytes (writeBytes m p bytes) p bytes.length = bytes := by
  refine List.ext_getElem (length_readBytes ..) fun i hi _ => ?_
  have hi' : i < bytes.length := by simpa using hi
  simp [readBytes, writeBytes, hi', Nat.add_sub_cancel_left]

theorem readBytes_writeBytes_of_disjoint (h : q + n ≤ p ∨ p + bytes.length ≤ q) :
    readBytes (writeBytes m p bytes) q n = readBytes m q n :=
  readBytes_congr fun _ _ => writeBytes_of_not_mem (by omega)

theorem memcpy_of_disjoint {dst src : Nat} (h : Disjoint dst src n) :
    memcpy m dst src n = some (writeBytes m dst (readBytes m src n)) :=
  if_neg (by unfold Disjoint at h; omega)

theorem memcpy_self (hn : 0 < n) : memcpy m p p n = none :=
  if_pos (by omega)

end Bytes

-- ============================================================================
-- Trivially copyable types and their views
-- ============================================================================

/-- A trivially copyable type as its object representation: `sizeof(T)` bytes, at least one,
    and copying the bytes of a value into a fresh object gives back the value. -/
structure TriviallyCopyable (T : Type) where
  size : Nat
  toBytes : T → List UInt8
  ofBytes : List UInt8 → T
  size_pos : 0 < size
  length_toBytes : ∀ v, (toBytes v).length = size
  ofBytes_toBytes : ∀ v, ofBytes (toBytes v) = v

/-- `detail::As<T>`, holding `ptr_`. -/
structure As (T : Type) where
  ptr : Nat

/-- `detail::ConstAs<T>`, holding `ptr_`. -/
structure ConstAs (T : Type) where
  ptr : Nat

/-- `td::as<ToT>(from)` for a mutable `from`. -/
def as (ToT : Type) (ptr : Nat) : As ToT := ⟨ptr⟩

/-- `td::as<ToT>(from)` for a `const` `from`. -/
def asConst (ToT : Type) (ptr : Nat) : ConstAs ToT := ⟨ptr⟩

variable {T : Type} (t : TriviallyCopyable T)

namespace As

/-- `operator T()`: `memcpy(&res, ptr_, sizeof(T))`. -/
def get (a : As T) (m : Memory) : T := t.ofBytes (readBytes m a.ptr t.size)

/-- `operator=(const T &new_value) &&`: `memcpy(ptr_, &new_value, sizeof(T))`. -/
def set (a : As T) (v : T) (m : Memory) : Memory := writeBytes m a.ptr (t.toBytes v)

/-- `operator=(As &&new_value) &&`: `memcpy(ptr_, new_value.ptr_, sizeof(T))`. -/
def assign (a b : As T) (m : Memory) : Option Memory := memcpy m a.ptr b.ptr t.size

/-- `operator==`: the values the two views read, compared with `T`'s `==`. -/
def beq [DecidableEq T] (a b : As T) (m : Memory) : Bool := decide (a.get t m = b.get t m)

variable {a b : As T} {m m' : Memory}

/-- A value written through a view reads back. -/
@[simp] theorem get_set (a : As T) (v : T) (m : Memory) : a.get t (a.set t v m) = v := by
  simp only [get, set, ← t.length_toBytes v, readBytes_writeBytes_self, t.ofBytes_toBytes]

/-- A write through one view does not change what a disjoint view reads. -/
theorem get_set_of_disjoint (h : Disjoint a.ptr b.ptr t.size) (v : T) :
    b.get t (a.set t v m) = b.get t m := by
  unfold get set
  rw [readBytes_writeBytes_of_disjoint (by rw [t.length_toBytes]; unfold Disjoint at h; omega)]

/-- Assigning a disjoint view copies its bytes, so the target then reads the source's value. -/
theorem assign_of_disjoint (h : Disjoint a.ptr b.ptr t.size) :
    a.assign t b m = some (writeBytes m a.ptr (readBytes m b.ptr t.size)) :=
  memcpy_of_disjoint h

theorem get_writeBytes_self (a : As T) (m : Memory) {bytes : List UInt8}
    (h : bytes.length = t.size) : a.get t (writeBytes m a.ptr bytes) = t.ofBytes bytes := by
  simp only [get, ← h, readBytes_writeBytes_self]

/-- A view assigned from itself is a `memcpy` onto itself: undefined. -/
theorem assign_self (a : As T) (m : Memory) : a.assign t a m = none :=
  memcpy_self t.size_pos

/-- After `a = b` the two views compare equal. -/
theorem beq_of_assign [DecidableEq T] (h : a.assign t b m = some m')
    (hd : Disjoint a.ptr b.ptr t.size) : a.beq t b m' = true := by
  rw [assign_of_disjoint t hd, Option.some_inj] at h
  subst h
  have hb : b.get t (writeBytes m a.ptr (readBytes m b.ptr t.size)) = b.get t m := by
    unfold get
    rw [readBytes_writeBytes_of_disjoint (by rw [length_readBytes]; unfold Disjoint at hd; omega)]
  simp only [beq, decide_eq_true_eq, hb, get_writeBytes_self t a m (length_readBytes ..)]
  rfl

end As

/-- `ConstAs<T>::operator T()`, which reads as `As<T>` does. -/
def ConstAs.get (c : ConstAs T) (m : Memory) : T := t.ofBytes (readBytes m c.ptr t.size)

theorem ConstAs.get_asConst (p : Nat) (m : Memory) :
    (asConst T p).get t m = (as T p).get t m := rfl

-- ============================================================================
-- Objects in memory
-- ============================================================================

/-- Views of `T` at pairwise disjoint addresses: the objects of an array or a struct of `T`. -/
structure Layout where
  ptr : Nat → Nat
  disjoint : ∀ i j, i ≠ j → Disjoint (ptr i) (ptr j) t.size

/-- A write through one of the views: `as<T>(ptr i) = v`, or `as<T>(ptr i) = as<T>(ptr j)`. -/
inductive Write (T : Type)
  | set (i : Nat) (v : T)
  | assign (i j : Nat)

variable {t}

namespace Layout

variable (L : Layout t)

def view (i : Nat) : As T := as T (L.ptr i)

/-- The bytes: each write goes through `As<T>`. -/
def step : Write T → Memory → Option Memory
  | .set i v, m => some ((L.view i).set t v m)
  | .assign i j, m => (L.view i).assign t (L.view j) m

/-- The bytes `m` hold the objects `vals` and agree with `m₀` outside the views. -/
structure Represents (m₀ m : Memory) (vals : Nat → T) : Prop where
  get_eq : ∀ i, (L.view i).get t m = vals i
  frame : ∀ a, (∀ i, a < L.ptr i ∨ L.ptr i + t.size ≤ a) → m a = m₀ a

/-- Storing a representation of `v` in the bytes of view `i` stores `v` in object `i`. -/
theorem Represents.write {L : Layout t} {m₀ m : Memory} {vals : Nat → T} (h : L.Represents m₀ m vals) (i : Nat)
    {bytes : List UInt8} (hlen : bytes.length = t.size) :
    L.Represents m₀ (writeBytes m (L.ptr i) bytes) (Function.update vals i (t.ofBytes bytes)) := by
  refine ⟨fun k => ?_, fun a ha => ?_⟩
  · by_cases hk : k = i
    · subst hk
      simpa using As.get_writeBytes_self t (L.view k) m hlen
    · have hd := L.disjoint i k (Ne.symm hk)
      rw [Function.update_noteq hk, ← h.get_eq k]
      unfold As.get
      rw [readBytes_writeBytes_of_disjoint (by unfold Disjoint at hd; simp only [view, as]; omega)]
  · rw [writeBytes_of_not_mem (by have := ha i; omega)]
    exact h.frame a ha

end Layout

/-- The objects: an object assigned from itself is rejected, as `memcpy` onto itself is
    undefined. -/
def Objects.step : Write T → (Nat → T) → Option (Nat → T)
  | .set i v, vals => some (Function.update vals i v)
  | .assign i j, vals => if i = j then none else some (Function.update vals i (vals j))

/-- One write: the bytes and the objects reject it together, or both take it and stay
    related. -/
theorem Layout.step_refines (L : Layout t) (w : Write T) {m₀ m : Memory} {vals : Nat → T}
    (h : L.Represents m₀ m vals) :
    (L.step w m = none ∧ Objects.step w vals = none) ∨
      ∃ m' vals', L.step w m = some m' ∧ Objects.step w vals = some vals' ∧
        L.Represents m₀ m' vals' := by
  cases w with
  | set i v =>
    refine .inr ⟨_, _, rfl, rfl, ?_⟩
    simpa [t.ofBytes_toBytes] using h.write i (t.length_toBytes v)
  | assign i j =>
    by_cases hij : i = j
    · subst hij
      exact .inl ⟨As.assign_self t _ m, if_pos rfl⟩
    · refine .inr ⟨_, _, As.assign_of_disjoint t (L.disjoint i j hij), if_neg hij, ?_⟩
      have hj : t.ofBytes (readBytes m (L.ptr j) t.size) = vals j := h.get_eq j
      exact hj ▸ h.write i (length_readBytes m (L.ptr j) t.size)

/-- **Writes through `as<T>` are assignments to objects.**  For views of a trivially copyable
    type at disjoint addresses, every sequence of writes through them, of values or of one
    view to another, fails exactly where the same assignments to independent objects would
    (at the first view assigned from itself, a `memcpy` onto itself); otherwise, every view
    then reads its object's value and no byte outside the views has changed. -/
theorem as_refines_objects (L : Layout t) (writes : List (Write T)) (m : Memory) :
    (∃ n, runSteps L.step writes m = .error n ∧
      runSteps Objects.step writes (fun i => (L.view i).get t m) = .error n) ∨
    ∃ m' vals, runSteps L.step writes m = .ok m' ∧
      runSteps Objects.step writes (fun i => (L.view i).get t m) = .ok vals ∧
      (∀ i, (L.view i).get t m' = vals i) ∧
      ∀ a, (∀ i, a < L.ptr i ∨ L.ptr i + t.size ≤ a) → m' a = m a := by
  have hrun := runSteps_agree (fun w _ _ h => L.step_refines w h) writes m _
    (⟨fun _ => rfl, fun _ _ => rfl⟩ : L.Represents m m _)
  revert hrun
  cases runSteps L.step writes m <;> cases runSteps Objects.step writes _ <;>
    simp only [RunsAgree, false_imp_iff, true_implies]
  · intro hn; exact .inl ⟨_, rfl, by rw [hn]⟩
  · intro h; exact .inr ⟨_, _, rfl, rfl, h.get_eq, h.frame⟩

/-- `uint8`, its own one-byte representation. -/
def TriviallyCopyable.uint8 : TriviallyCopyable UInt8 where
  size := 1
  toBytes v := [v]
  ofBytes bytes := bytes.headD 0
  size_pos := Nat.one_pos
  length_toBytes _ := rfl
  ofBytes_toBytes _ := rfl

/-- The elements of a `uint8` array at address `0`, one view each. -/
def Layout.uint8Array : Layout TriviallyCopyable.uint8 where
  ptr i := i
  disjoint i j hij := by
    show i + 1 ≤ j ∨ j + 1 ≤ i
    omega

/-- Through the views of a `uint8` array: storing `7` in element 0 and then copying element 0
    into element 1 leaves `7` in both, as for two objects; copying element 2 onto itself
    fails, at the third write. -/
theorem as_refines_objects_on_uint8Array :
    (∃ m', ∃ vals : Nat → UInt8,
      runSteps Layout.uint8Array.step [.set 0 7, .assign 1 0] (fun _ => 0) = .ok m' ∧
      (∀ i, (Layout.uint8Array.view i).get TriviallyCopyable.uint8 m' = vals i) ∧
      vals 0 = 7 ∧ vals 1 = 7) ∧
    ∃ n, runSteps Layout.uint8Array.step [.set 0 7, .assign 1 0, .assign 2 2] (fun _ => 0) =
      .error n ∧ n = 2 := by
  constructor
  · rcases as_refines_objects Layout.uint8Array [.set 0 7, .assign 1 0] (fun _ => 0) with
      ⟨n, h, -⟩ | ⟨m', vals, h, hvals, hget, -⟩
    · cases h
    · cases hvals
      exact ⟨m', _, h, hget, rfl, rfl⟩
  · rcases as_refines_objects Layout.uint8Array [.set 0 7, .assign 1 0, .assign 2 2]
      (fun _ => 0) with ⟨n, h, hobjects⟩ | ⟨m', vals, h, -⟩
    · cases hobjects
      exact ⟨2, h, rfl⟩
    · cases h

end Utils
end TelegramTd
