import Cityscape.Proofs.TileImage.Validity
import Mathlib.Data.Nat.PSub

/-!
# The views of an animation

Which frame is shown at a time is found in three ways: by walking along the frames and taking off
their durations (`indexAfter`), by the windows of the clock (`windows`), and by cases to be tried in
order (`asCases`). All three are compared with sums of durations: a frame is shown from the end of
the frames before it to its own end (`indexAfter_eq_some_iff`, `getElem?_windowsFrom`).

The main statement is `views_agree`: for every animation that can be built, at every time, all of
them find the same frame, and neither a sum nor a difference of clock times leaves the range of the
clock on the way.
-/

namespace Cityscape.Frame

variable {α : Type}

/-! ## Sums of durations -/

/-- A walk ends at the frame that has begun by then, and has not ended. -/
lemma indexAfter_eq_some_iff {fs : List (Frame α)} {t i} :
    indexAfter fs t = some i ↔
      i < fs.length ∧ period (fs.take i) ≤ t ∧ t < period (fs.take (i + 1)) := by
  induction fs generalizing t i with
  | nil => simp [indexAfter]
  | cons f fs ih =>
    rw [indexAfter]
    cases i with
    | zero =>
      show _ ↔ 0 < fs.length + 1 ∧ 0 ≤ t ∧ t < f.duration + 0
      split <;> simp [*]
    | succ i =>
      show _ ↔ i + 1 < fs.length + 1 ∧ f.duration + period (fs.take i) ≤ t ∧
        t < f.duration + period (fs.take (i + 1))
      split
      case isTrue h =>
        constructor
        · intro walk
          cases walk
        · intro bounds
          omega
      case isFalse h =>
        have walk : (indexAfter fs (t - f.duration)).map (· + 1) = some (i + 1) ↔
            indexAfter fs (t - f.duration) = some i := by simp
        rw [walk, ih]
        omega

/-- A walk of less than the period ends at a frame. -/
lemma exists_indexAfter {fs : List (Frame α)} {t} (h : t < period fs) :
    ∃ i, indexAfter fs t = some i := by
  obtain ⟨a, ha⟩ := Shows.exists h
  obtain ⟨i, hi, _⟩ := ha.indexAfter
  exact ⟨i, hi⟩

/-- The windows of frames that follow one another, by position. -/
lemma getElem?_windowsFrom {p start j : Nat} {fs : List (Frame α)} :
    (windowsFrom p start fs)[j]? = fs[j]?.map fun f => Case.mk
      (.frame p (start + period (fs.take j)) (start + period (fs.take (j + 1)))) f.image := by
  induction fs generalizing start j with
  | nil => rfl
  | cons f fs ih =>
    cases j with
    | zero => rfl
    | succ j =>
      show (windowsFrom p (start + f.duration) fs)[j]? = fs[j]?.map fun g => Case.mk
        (.frame p (start + (f.duration + period (fs.take j)))
          (start + (f.duration + period (fs.take (j + 1))))) g.image
      rw [ih, Nat.add_assoc, Nat.add_assoc]

section
variable {dc : DrawContext}

/-- The window that holds is the one at the position where the walk ends. -/
lemma holds_windows_iff {fs : List (Frame α)} (pos : 0 < period fs) {j c}
    (hc : (windows fs)[j]? = some c) :
    c.condition.holds dc = true ↔ indexAfter fs (dc.time % period fs) = some j := by
  match fs with
  | [] => cases hc
  | [f] =>
    -- A single frame has no window, and the walk ends at once.
    have lt : dc.time % period [f] < f.duration := Nat.mod_lt _ pos
    obtain ⟨rfl, rfl⟩ : 0 = j ∧ ⟨.always, f.image⟩ = c := by
      simpa [windows, List.getElem?_singleton, eq_comm] using hc
    rw [indexAfter, if_pos lt]
    exact ⟨fun _ => rfl, fun _ => rfl⟩
  | f :: g :: fs =>
    have window := getElem?_windowsFrom.symm.trans hc
    obtain ⟨h, hj, rfl⟩ := Option.map_eq_some_iff.1 window
    rw [holds_window pos, indexAfter_eq_some_iff, Bool.and_eq_true_iff, decide_eq_true_iff,
      decide_eq_true_iff, Nat.zero_add, Nat.zero_add]
    have lt := (List.getElem?_eq_some_iff.1 hj).1
    exact (and_iff_right lt).symm

/-- There is one window for each frame. -/
lemma length_windows {fs : List (Frame α)} : (windows fs).length = fs.length := by
  rw [← List.length_map, images_windows, List.length_map]

/-- The first window that holds is the one of the frame at which the walk ends. -/
lemma findIdx?_windows {fs : List (Frame α)} (pos : 0 < period fs) {i}
    (h : indexAfter fs (dc.time % period fs) = some i) :
    (windows fs).findIdx? (fun c => c.condition.holds dc) = some i := by
  have lt : i < (windows fs).length := by
    rw [length_windows]
    exact (indexAfter_eq_some_iff.1 h).1
  apply List.findIdx?_eq_some_iff_getElem.2
  refine ⟨lt, (holds_windows_iff pos (List.getElem?_eq_getElem lt)).2 h, fun j hj holds => ?_⟩
  have walk := (holds_windows_iff pos (List.getElem?_eq_getElem (Nat.lt_trans hj lt))).1 holds
  rw [h] at walk
  exact absurd (Option.some.inj walk) (Nat.ne_of_gt hj)

/-- The first case that holds stays the first one if the last case is made the default. -/
lemma findIdx?_withDefault {cs : List (Case α)} {i}
    (h : cs.findIdx? (fun c => c.condition.holds dc) = some i) :
    (withDefault cs).findIdx? (fun c => c.condition.holds dc) = some i := by
  induction cs generalizing i with
  | nil => exact h
  | cons c cs ih =>
    rw [List.findIdx?_cons] at h
    cases cs with
    | nil =>
      split at h
      · exact h
      · cases h
    | cons d cs =>
      rw [withDefault, List.findIdx?_cons]
      · split at h
        case isTrue hc => rwa [if_pos hc]
        case isFalse hc =>
          obtain ⟨k, hk, rfl⟩ := Option.map_eq_some_iff.1 h
          rw [if_neg hc, ih hk]
          rfl
      · exact nofun

end

/-! ## Checked clock times -/

/-- The sum of the durations, unless the clock cannot count that far. -/
def period? (frames : List (Frame α)) : Option Nat :=
  frames.foldlM (fun total f => Bounds.uint64.fitNat? (total + f.duration)) 0

/-- The walk along the frames, unless more is taken off than is left. -/
def indexAfter? : List (Frame α) → Nat → Option (Option Nat)
  | [], _ => some none
  | f :: others, t =>
    if t < f.duration then some (some 0)
    else do return (← indexAfter? others (← t.psub f.duration)).map (· + 1)

/-- The position of the frame that is shown at a time, unless the clock cannot count the period or
the period is zero. -/
def shownIndex? (frames : List (Frame α)) (time : Nat) : Option Nat := do
  let p ← period? frames
  if p = 0 then none
  else return (← indexAfter? frames (time % p)).getD (frames.length - 1)

/-- A sum fits if and only if all sums on the way to it do. -/
lemma foldlM_fitNat? {fs : List (Frame α)} {total : Nat} (h : Bounds.uint64.Holds total) :
    fs.foldlM (fun total f => Bounds.uint64.fitNat? (total + f.duration)) total =
      Bounds.uint64.fitNat? (total + period fs) := by
  induction fs generalizing total with
  | nil => exact (Bounds.fitNat?_of_holds h).symm
  | cons f fs ih =>
    rw [List.foldlM_cons, period, ← Nat.add_assoc]
    by_cases fits : Bounds.uint64.Holds ↑(total + f.duration)
    · rw [Bounds.fitNat?_of_holds fits]
      exact ih fits
    · -- Later durations only add to a sum that is too large already.
      have grows : ¬Bounds.uint64.Holds ↑(total + f.duration + period fs) := by
        rintro ⟨_, hi⟩
        apply fits
        exact ⟨Int.natCast_nonneg _, Int.le_trans (Int.ofNat_le.2 (Nat.le_add_right _ _)) hi⟩
      rw [Bounds.fitNat?_eq_none_iff.2 fits, Bounds.fitNat?_eq_none_iff.2 grows]
      rfl

/-- A period is computed if it fits the clock. -/
lemma period?_eq {fs : List (Frame α)} : period? fs = Bounds.uint64.fitNat? (period fs) := by
  have start : Bounds.uint64.Holds ((0 : Nat) : Int) := by decide
  rw [period?, foldlM_fitNat? start, Nat.zero_add]

/-- A duration is taken off only where that much is left. -/
lemma indexAfter?_eq {fs : List (Frame α)} {t} : indexAfter? fs t = some (indexAfter fs t) := by
  induction fs generalizing t with
  | nil => rfl
  | cons f fs ih =>
    rw [indexAfter?, indexAfter]
    split
    case isTrue => rfl
    case isFalse h =>
      rw [Nat.psub_eq_sub (Nat.le_of_not_lt h)]
      show (indexAfter? fs (t - f.duration)).bind _ = _
      rw [ih]
      rfl

/-- Where frames run for some time and their period fits the clock, the frame that is shown is
computed. -/
lemma Timed.shownIndex?_eq {fs : List (Frame α)} (h : Timed fs) (time : Nat) :
    shownIndex? fs time = some (shownIndex fs time) := by
  rw [shownIndex?, period?_eq, Bounds.fitNat?_of_holds h.fits]
  show (if period fs = 0 then none else (indexAfter? fs (time % period fs)).bind _) = _
  rw [if_neg (Nat.ne_of_gt h.pos), indexAfter?_eq]
  rfl

/-! ## Agreement -/

/-- All views of frames find the one at a position in a context. -/
structure ShownAt (frames : List (Frame α)) (dc : DrawContext) (i : Nat) : Prop where
  begun : period (frames.take i) ≤ dc.time % period frames
  lasting : dc.time % period frames < period (frames.take (i + 1))
  /-- The walk ends at the frame, not behind the last one. -/
  walk : indexAfter frames (dc.time % period frames) = some i
  shown : shownIndex frames dc.time = i
  window : ∃ c, (windows frames)[i]? = some c ∧ c.condition.holds dc = true
  unique : ∀ j c, (windows frames)[j]? = some c → c.condition.holds dc = true → j = i
  firstCase : (asCases frames).findIdx? (fun c => c.condition.holds dc) = some i

/-- Where frames run for some time, there is a position of which all views speak. -/
lemma Timed.shownAt {fs : List (Frame α)} (h : Timed fs) (dc : DrawContext) :
    ∃ i < fs.length, ShownAt fs dc i := by
  obtain ⟨i, walk⟩ := exists_indexAfter (Nat.mod_lt dc.time h.pos)
  obtain ⟨lt, begun, lasting⟩ := indexAfter_eq_some_iff.1 walk
  have lt' : i < (windows fs).length := by rwa [length_windows]
  obtain ⟨c, hc⟩ : ∃ c, (windows fs)[i]? = some c := ⟨_, List.getElem?_eq_getElem lt'⟩
  have holds : c.condition.holds dc = true := (holds_windows_iff h.pos hc).2 walk
  refine ⟨i, lt, begun, lasting, walk, ?_, ⟨c, hc, holds⟩, fun j d hd holds' => ?_, ?_⟩
  · rw [shownIndex, walk]
    rfl
  · have walk' := (holds_windows_iff h.pos hd).1 holds'
    exact Option.some.inj (walk'.symm.trans walk)
  · exact findIdx?_withDefault (findIdx?_windows h.pos walk)

/-- At every time all views of an animation find the same frame, and the same at all times that
differ by whole periods. The cases are the frames in order, and the clock can count everything that
is computed on the way. -/
theorem views_agree {fs frames : List (Frame TileImage)}
    (built : TileImage.animation? (raised fs) = .ok (.animation frames)) (dc : DrawContext) :
    (∃ i < frames.length, ShownAt frames dc i ∧
      ∀ time, time % period frames = dc.time % period frames → shownIndex? frames time = some i) ∧
    (windows frames).map (·.image) = frames.map (·.image) ∧
    (asCases frames).map (·.image) = frames.map (·.image) ∧
    period? frames = some (period frames) ∧
    windows? frames = some (windows frames) := by
  obtain ⟨nonempty, fits, _, same⟩ := TileImage.animation?_eq_ok_iff.1 built
  obtain rfl : frames = raised fs := TileImage.animation.inj same
  have timed : Timed (raised fs) := ⟨nonempty, fun _ => lasting_raised, fits⟩
  obtain ⟨i, lt, view⟩ := timed.shownAt dc
  refine ⟨⟨i, lt, view, fun time cycle => ?_⟩, images_windows, images_asCases, ?_, windows?_eq fits⟩
  · rw [timed.shownIndex?_eq, shownIndex, cycle]
    exact congrArg some view.shown
  · rw [period?_eq, Bounds.fitNat?_of_holds fits]

/-- Frames with the longest period that the clock can count; the second one is raised to a tick. -/
def longest : List (Frame TileImage) :=
  [⟨18446744073709551613, TileImage.Crossing.tile 1⟩, ⟨0, TileImage.Crossing.tile 2⟩,
    ⟨1, TileImage.Crossing.tile 3⟩]

/-- In the last tick of the longest period the last frame is shown, in the tick before it the one
that was raised. -/
theorem views_agree_longest :
    TileImage.animation? (raised longest) = .ok (.animation (raised longest)) ∧
      period (raised longest) = 18446744073709551615 ∧
      ShownAt (raised longest) ⟨18446744073709551614, fun _ => none, ⟨0, 0⟩⟩ 2 ∧
      shownIndex? (raised longest) 18446744073709551613 = some 1 ∧
      windows? (raised longest) = some (windows (raised longest)) := by
  have built : TileImage.animation? (raised longest) = .ok (.animation (raised longest)) := rfl
  obtain ⟨⟨i, _, last, _⟩, _, _, _, windows⟩ :=
    views_agree built ⟨18446744073709551614, fun _ => none, ⟨0, 0⟩⟩
  obtain ⟨⟨j, _, raised, cycle⟩, _⟩ :=
    views_agree built ⟨18446744073709551613, fun _ => none, ⟨0, 0⟩⟩
  obtain rfl : 2 = i := Option.some.inj last.walk
  obtain rfl : 1 = j := Option.some.inj raised.walk
  exact ⟨built, rfl, last, cycle _ rfl, windows⟩

end Cityscape.Frame
