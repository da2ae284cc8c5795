/-
  TelegramTd.Basic

  The vocabulary the managers share: the C++ type `int32`, td's `Status`
  errors, the file and photo-size values the caches store, and runs of a
  component whose `CHECK`s abort.

  An `Int32` carries its range, so a field the source declares `int32` cannot
  hold anything else.  Addition and subtraction wrap as two's-complement
  hardware does; `Int32.add_val_of_le` and `Int32.sub_val_of_le` say when the
  wrapped result is the exact one, which is how every no-overflow fact of the
  project is stated.  `Int32.ofUInt16` and `Int32.narrowCast` are the two
  conversions into `int32` the managers make.

  A manager's operations return `none` where a `CHECK` fails, which aborts
  the process; `runSteps` runs a list of calls and reports either the final
  state or the index of the call that aborted.  Its lemmas are the
  inductions over runs the project shares: a lock-step simulation of two
  components, a simulation in which some calls of one component are
  stutters, and an invariant kept by every call.
-/

import Mathlib.Logic.Function.Basic

namespace TelegramTd

/-- A value of the C++ type `int32`. -/
structure Int32 where
  val : Int
  range : -2147483648 ≤ val ∧ val ≤ 2147483647
deriving DecidableEq

namespace Int32

/-- Two's-complement reduction of an integer into `int32`. -/
def wrap (x : Int) : Int32 :=
  ⟨(x + 2147483648) % 4294967296 - 2147483648, by omega⟩

instance : Add Int32 := ⟨fun a b => wrap (a.val + b.val)⟩
instance : Sub Int32 := ⟨fun a b => wrap (a.val - b.val)⟩
instance {n : Nat} : OfNat Int32 n := ⟨wrap n⟩
instance : LE Int32 := ⟨fun a b => a.val ≤ b.val⟩
instance : LT Int32 := ⟨fun a b => a.val < b.val⟩
instance (a b : Int32) : Decidable (a ≤ b) := inferInstanceAs (Decidable (a.val ≤ b.val))
instance (a b : Int32) : Decidable (a < b) := inferInstanceAs (Decidable (a.val < b.val))

/-- `std::max` on `int32`: `a < b ? b : a`. -/
instance : Max Int32 := ⟨fun a b => if a < b then b else a⟩

/-- `std::numeric_limits<int32>::max()`. -/
def maxValue : Int32 := ⟨2147483647, by omega⟩

theorem ext {a b : Int32} (h : a.val = b.val) : a = b := by
  cases a; cases b; cases h; rfl

theorem wrap_val_of_le {x : Int} (h₁ : -2147483648 ≤ x) (h₂ : x ≤ 2147483647) :
    (wrap x).val = x := by
  simp only [wrap]; omega

@[simp] theorem le_def (a b : Int32) : a ≤ b ↔ a.val ≤ b.val := Iff.rfl
@[simp] theorem lt_def (a b : Int32) : a < b ↔ a.val < b.val := Iff.rfl
@[simp] theorem maxValue_val : maxValue.val = 2147483647 := rfl
@[simp] theorem val_zero : (0 : Int32).val = 0 := rfl

@[simp] theorem val_ofNat (n : Nat) (h : n ≤ 2147483647) :
    (OfNat.ofNat n : Int32).val = n :=
  wrap_val_of_le (by omega) (by omega)

theorem add_val_of_le {a b : Int32} (h₁ : -2147483648 ≤ a.val + b.val)
    (h₂ : a.val + b.val ≤ 2147483647) : (a + b).val = a.val + b.val :=
  wrap_val_of_le h₁ h₂

theorem sub_val_of_le {a b : Int32} (h₁ : -2147483648 ≤ a.val - b.val)
    (h₂ : a.val - b.val ≤ 2147483647) : (a - b).val = a.val - b.val :=
  wrap_val_of_le h₁ h₂

theorem max_val (a b : Int32) : (max a b).val = max a.val b.val := by
  show (if a < b then b else a).val = _
  split <;> rename_i h <;> rw [lt_def] at h <;> omega

/-- A `uint16` promoted to `int32`. -/
def ofUInt16 (x : UInt16) : Int32 :=
  ⟨x.toNat, by have : x.toNat < 65536 := x.val.isLt; omega⟩

/-- `narrow_cast<int32>` (td/utils/misc.h, not under src/): a value that does not fit fails
    a `CHECK`. -/
def narrowCast (x : Int) : Option Int32 :=
  if h : -2147483648 ≤ x ∧ x ≤ 2147483647 then some ⟨x, h⟩ else none

end Int32

/-- td's `Status` as an error: a code and a message (`Status::Error(code, message)`). -/
structure Status where
  code : Int
  message : String
deriving DecidableEq

/-- `FileId` (td/telegram/files/FileId.h, not under src/).  Its equality, hash and
    `is_valid` read only the file's `id`, so the maps keyed by file ids are keyed by `id`; the
    `remote_id` it also carries is kept beside it where a copy can be told apart by it
    (`PhotoSize.fileRemoteId`). -/
structure FileId where
  id : Int
deriving DecidableEq

/-- `FileId::is_valid`. -/
def FileId.isValid (fileId : FileId) : Bool := decide (0 < fileId.id)

/-- `Dimensions` (Dimensions.h, not under src/): two `uint16`, zero by default. -/
structure Dimensions where
  width : UInt16 := 0
  height : UInt16 := 0
deriving DecidableEq

/-- `PhotoSize` (PhotoSize.h, not under src/), with td's default members.  Managers read
    only `file_id`; `fileRemoteId` is the `remote_id` that `file_id` carries. -/
structure PhotoSize where
  type : Int := 0
  dimensions : Dimensions := {}
  size : Int := 0
  fileId : FileId := ⟨0⟩
  fileRemoteId : Int := 0
  progressiveSizes : List Int := []
deriving DecidableEq

/-- `PhotoSize`'s `==` (PhotoSize.cpp, not under src/): every member, the file compared by
    `FileId`'s `==`, which does not read the remote id. -/
def PhotoSize.eqv (a b : PhotoSize) : Bool :=
  a.type == b.type && a.dimensions == b.dimensions && a.size == b.size &&
    a.fileId == b.fileId && a.progressiveSizes == b.progressiveSizes

/-- Two photo sizes that `==` calls equal differ at most in the file's remote id. -/
theorem PhotoSize.eqv_iff {a b : PhotoSize} :
    a.eqv b = true ↔ { a with fileRemoteId := 0 } = { b with fileRemoteId := 0 } := by
  cases a; cases b
  simp [PhotoSize.eqv, and_assoc]

-- ============================================================================
-- Runs of calls that may abort
-- ============================================================================

section Runs

variable {σ τ C : Type}

/-- Runs `calls` from `s`: the final state, or the index of the first call whose `CHECK`
    failed (`step` returned `none`). -/
def runSteps (step : C → σ → Option σ) : List C → σ → Except Nat σ
  | [], s => .ok s
  | c :: calls, s =>
    match step c s with
    | none => .error 0
    | some s' =>
      match runSteps step calls s' with
      | .error n => .error (n + 1)
      | .ok s'' => .ok s''

/-- Two components run in lock step from related states: they abort at the same call, or
    both finish, in related states. -/
def RunsAgree (R : σ → τ → Prop) : Except Nat σ → Except Nat τ → Prop
  | .error n, .error m => n = m
  | .ok s, .ok t => R s t
  | _, _ => False

/-- If every call aborts in both components or in neither, and keeps `R`, then so does
    every run. -/
theorem runSteps_agree {stepC : C → σ → Option σ} {stepA : C → τ → Option τ}
    {R : σ → τ → Prop}
    (hstep : ∀ c s t, R s t → (stepC c s = none ∧ stepA c t = none) ∨
      ∃ s' t', stepC c s = some s' ∧ stepA c t = some t' ∧ R s' t') :
    ∀ calls s t, R s t → RunsAgree R (runSteps stepC calls s) (runSteps stepA calls t)
  | [], _, _, h => h
  | c :: calls, s, t, h => by
    rcases hstep c s t h with ⟨hs, ht⟩ | ⟨s', t', hs, ht, h'⟩
    · simp only [runSteps, hs, ht]; rfl
    · have ih := runSteps_agree hstep calls s' t' h'
      simp only [runSteps, hs, ht]
      split <;> split <;> simp_all [RunsAgree]

/-- A run that does not abort takes its first call and then runs the rest. -/
theorem runSteps_cons_eq_ok {step : C → σ → Option σ} {c : C} {calls : List C} {s s' : σ} :
    runSteps step (c :: calls) s = .ok s' ↔
      ∃ s₁, step c s = some s₁ ∧ runSteps step calls s₁ = .ok s' := by
  simp only [runSteps]
  split <;> rename_i hs₁
  · simp [hs₁]
  · split <;> simp_all

/-- An invariant that every admissible call keeps holds after every run of admissible
    calls that does not abort. -/
theorem runSteps_invariant {step : C → σ → Option σ} {I : σ → Prop} {P : C → Prop}
    (hstep : ∀ c s s', P c → I s → step c s = some s' → I s') :
    ∀ calls s s', (∀ c ∈ calls, P c) → I s → runSteps step calls s = .ok s' → I s'
  | [], _, _, _, hs, h => by cases h; exact hs
  | c :: calls, s, s', hP, hs, h => by
    obtain ⟨s₁, hs₁, h⟩ := runSteps_cons_eq_ok.mp h
    exact runSteps_invariant hstep calls s₁ s' (fun c' hc' => hP c' (.tail _ hc'))
      (hstep c s s₁ (hP c (.head _)) hs hs₁) h

/-- A component simulates another on the calls `proj` maps to it: a call `proj` drops keeps
    a related pair related with no step of the other component, and a call it maps takes one
    matching step.  A run that does not abort is then matched by a run of the projected
    calls that does not abort either. -/
theorem runSteps_simulates {A : Type} {stepC : C → σ → Option σ}
    {stepA : A → τ → Option τ} {R : σ → τ → Prop} (proj : C → Option A)
    (hskip : ∀ c s s' t, proj c = none → R s t → stepC c s = some s' → R s' t)
    (hmatch : ∀ c a s s' t, proj c = some a → R s t → stepC c s = some s' →
      ∃ t', stepA a t = some t' ∧ R s' t') :
    ∀ calls s s' t, R s t → runSteps stepC calls s = .ok s' →
      ∃ t', runSteps stepA (calls.filterMap proj) t = .ok t' ∧ R s' t'
  | [], _, _, t, hR, h => by cases h; exact ⟨t, rfl, hR⟩
  | c :: calls, s, s', t, hR, h => by
    obtain ⟨s₁, hs₁, h⟩ := runSteps_cons_eq_ok.mp h
    cases hc : proj c with
    | none =>
      rw [List.filterMap_cons_none hc]
      exact runSteps_simulates proj hskip hmatch calls s₁ s' t (hskip c s s₁ t hc hR hs₁) h
    | some a =>
      obtain ⟨t₁, ht₁, hR₁⟩ := hmatch c a s s₁ t hc hR hs₁
      obtain ⟨t', ht', hR'⟩ := runSteps_simulates proj hskip hmatch calls s₁ s' t₁ hR₁ h
      rw [List.filterMap_cons_some hc]
      exact ⟨t', runSteps_cons_eq_ok.mpr ⟨t₁, ht₁, ht'⟩, hR'⟩

end Runs

end TelegramTd
