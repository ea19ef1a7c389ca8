import Cityscape.Proofs.Case.Exclusion

/-!
# The windows of an animation

The frames of an animation divide its period into windows. `Shows frames t a` is the judgment that
the image `a` is the one to be seen `t` ticks after the first frame appears; it follows the frames
one by one, as the windows do.

The main statements hold of frames with a period of at least one tick. `shown` says that at every
time the frame that is shown has the only active window, so that the windows exclude one another
and leave no time out. `selects_asCases` and `agree_windows` say the same of the two ways in which
frames become cases: tried in order, and made exclusive again.
-/

namespace Cityscape

variable {α β : Type}

namespace Frame

/-- An image is to be seen `t` ticks after the first frame appears. -/
inductive Shows : List (Frame α) → Nat → α → Prop where
  | here {f fs t} :
    t < f.duration →
    Shows (f :: fs) t f.image
  | later {f fs t a} :
    f.duration ≤ t →
    Shows fs (t - f.duration) a →
    Shows (f :: fs) t a

/-- Within the period there is always something to be seen. -/
lemma Shows.exists {fs : List (Frame α)} {t} (h : t < period fs) : ∃ a, Shows fs t a := by
  induction fs generalizing t with
  | nil => exact absurd h (Nat.not_lt_zero t)
  | cons f fs ih =>
    by_cases ht : t < f.duration
    · exact ⟨f.image, .here ht⟩
    · rw [period] at h
      obtain ⟨a, ha⟩ := ih (t := t - f.duration) (by omega)
      exact ⟨a, .later (by omega) ha⟩

/-- What is to be seen is the image of one of the frames. -/
lemma Shows.mem {fs : List (Frame α)} {t a} (h : Shows fs t a) : ∃ f ∈ fs, f.image = a := by
  induction h with
  | @here f _ _ _ => exact ⟨f, List.mem_cons_self, rfl⟩
  | later _ _ ih =>
    obtain ⟨g, hg, e⟩ := ih
    exact ⟨g, List.mem_cons_of_mem _ hg, e⟩

/-- The image that is to be seen is found by walking along the frames. -/
lemma Shows.indexAfter {fs : List (Frame α)} {t a} (h : Shows fs t a) :
    ∃ i, indexAfter fs t = some i ∧ fs[i]?.map (·.image) = some a := by
  induction h with
  | here ht => exact ⟨0, if_pos ht, rfl⟩
  | @later f fs t a ht _ ih =>
    obtain ⟨i, hi, e⟩ := ih
    refine ⟨i + 1, ?_, e⟩
    rw [Frame.indexAfter, if_neg (by omega), hi]
    rfl

/-- What is to be seen at a time, counted from the start of its round, is what is shown. -/
lemma Shows.shown? {fs : List (Frame α)} {time a} (h : Shows fs (time % period fs) a) :
    shown? time fs = some a := by
  obtain ⟨i, hi, e⟩ := h.indexAfter
  have index : shownIndex fs time = i := by rw [shownIndex, hi]; rfl
  rw [Frame.shown?, index]
  exact e

section
variable {dc : DrawContext} {p start : Nat}

/-- A window holds from its start on until it stops. -/
lemma holds_window {stop : Nat} (pos : 0 < p) :
    (Condition.frame p start stop).holds dc =
      (decide (start ≤ dc.time % p) && decide (dc.time % p < stop)) := by
  rw [Condition.holds, Nat.max_eq_left pos]

/-- No window holds before the first one begins. -/
lemma active_windowsFrom_of_lt {fs : List (Frame α)} (pos : 0 < p) (h : dc.time % p < start) :
    Case.active dc (windowsFrom p start fs) = [] := by
  induction fs generalizing start with
  | nil => rfl
  | cons f fs ih =>
    rw [windowsFrom, Case.active_cons, holds_window pos, ih (by omega)]
    rw [decide_eq_false (by omega)]
    rfl

/-- Of windows that follow one another, only that of the image to be seen holds. -/
lemma Shows.active_windowsFrom {fs : List (Frame α)} {a} (pos : 0 < p)
    (hs : start ≤ dc.time % p) (h : Shows fs (dc.time % p - start) a) :
    Case.active dc (windowsFrom p start fs) = [a] := by
  -- The induction is on the frames; a later window starts later by the duration that `t` loses.
  generalize e : dc.time % p - start = t at h
  induction h generalizing start with
  | @here f fs t ht =>
    rw [windowsFrom, Case.active_cons, holds_window pos, decide_eq_true hs,
      decide_eq_true (by omega), active_windowsFrom_of_lt pos (by omega)]
    rfl
  | @later f fs t a ht _ ih =>
    rw [windowsFrom, Case.active_cons, holds_window pos, decide_eq_true hs,
      decide_eq_false (p := dc.time % p < start + f.duration) (by omega)]
    exact ih (by omega) (by omega)

end

/-- At every time exactly one window holds, that of the frame which is shown. -/
lemma shown {fs : List (Frame α)} (pos : 0 < period fs) (dc : DrawContext) :
    ∃ a, shown? dc.time fs = some a ∧ Case.active dc (windows fs) = [a] ∧
      ∃ f ∈ fs, f.image = a := by
  have lt : dc.time % period fs < period fs := Nat.mod_lt _ pos
  obtain ⟨a, h⟩ := Shows.exists lt
  refine ⟨a, h.shown?, ?_, h.mem⟩
  -- A single frame has no window, it is always shown.
  match fs, h with
  | [f], .here _ => rfl
  | [f], .later _ h => cases h
  | f :: g :: fs, h => exact h.active_windowsFrom pos (Nat.zero_le _)

end Frame

namespace Case

/-- Making the last case the default does not change what is selected, if something is. -/
lemma Selects.withDefault {dc : DrawContext} {cs : List (Case α)} {a} (h : Selects dc cs a) :
    Selects dc (Frame.withDefault cs) a := by
  induction cs with
  | nil => cases h
  | cons c cs ih =>
    rw [Selects.cons] at h
    cases cs with
    | nil =>
      split at h
      · exact congrArg some h
      · cases h
    | cons d cs =>
      refine Selects.cons.2 ?_
      split at h
      case isTrue hc => rwa [if_pos hc]
      case isFalse hc => rw [if_neg hc]; exact ih h

/-- Making the last of some cases the default gives them one. -/
lemma HasDefault.withDefault {cs : List (Case α)} (h : cs ≠ []) :
    HasDefault (Frame.withDefault cs) := by
  induction cs with
  | nil => exact absurd rfl h
  | cons c cs ih =>
    cases cs with
    | nil => exact .last
    | cons d cs => exact .cons (ih (List.cons_ne_nil d cs))

/-- Where one of the cases is active if the excluded condition holds, and none otherwise, they
exclude one another already. -/
lemma Agree.exclusive_withDefault {cs : List (Case α)} {e : Condition}
    (h : ∀ dc, (active dc cs).length = if e.holds dc then 1 else 0) :
    Agree cs (Case.exclusive e (Frame.withDefault cs)) := by
  induction cs generalizing e with
  | nil => exact .nil
  | cons c cs ih =>
    cases cs with
    | nil =>
      refine .cons ⟨rfl, fun dc => ?_⟩ .nil
      have hc := h dc
      revert hc
      simp only [active_cons, active_nil, Condition.holds_conj, Condition.holds]
      cases c.condition.holds dc <;> cases e.holds dc <;> simp
    | cons d cs =>
      -- Either this case is the active one, and the others have none left, or it is one of them.
      refine .cons ⟨rfl, fun dc => ?_⟩ (ih fun dc => ?_)
      all_goals
        have hc := h dc
        rw [active_cons] at hc
        revert hc
        simp only [Condition.holds_conj, Condition.holds_negate]
        cases c.condition.holds dc <;> cases e.holds dc <;> simp

end Case

namespace Frame

/-- Frames changed in two ways that agree on their images come out the same. -/
lemma map_congr {f g : α → β} {fs : List (Frame α)} (h : ∀ c ∈ fs, f c.image = g c.image) :
    fs.map (Frame.map f) = fs.map (Frame.map g) :=
  List.map_congr_left fun c hc => congrArg (Frame.mk c.duration) (h c hc)

/-- Frames whose images are not changed stay the same. -/
lemma map_eq_self {f : α → α} {fs : List (Frame α)} (h : ∀ c ∈ fs, f c.image = c.image) :
    fs.map (Frame.map f) = fs := by
  have same : fs.map (Frame.map f) = fs.map (Frame.map id) := map_congr h
  exact same.trans (List.map_id fs)

/-- Changing frames twice is changing them once by both changes. -/
lemma map_map {γ : Type} {f : α → β} {g : β → γ} {fs : List (Frame α)} :
    (fs.map (Frame.map f)).map (Frame.map g) = fs.map (Frame.map fun a => g (f a)) := List.map_map

/-- The windows of changed frames are the windows of the frames, changed. -/
lemma map_windowsFrom {f : α → β} {p start : Nat} {fs : List (Frame α)} :
    windowsFrom p start (fs.map (Frame.map f)) = (windowsFrom p start fs).map (Case.map f) := by
  induction fs generalizing start with
  | nil => rfl
  | cons g fs ih =>
    show _ :: windowsFrom p (start + g.duration) (fs.map (Frame.map f)) = _
    rw [ih]
    rfl

/-- Changed frames have the period of the frames. -/
lemma period_map {f : α → β} {fs : List (Frame α)} : period (fs.map (Frame.map f)) = period fs := by
  induction fs with
  | nil => rfl
  | cons g fs ih =>
    show g.duration + period (fs.map (Frame.map f)) = _
    rw [ih]
    rfl

/-- The windows of changed frames are the windows of the frames, changed, over the whole period. -/
lemma windows_map {f : α → β} {fs : List (Frame α)} :
    windows (fs.map (Frame.map f)) = (windows fs).map (Case.map f) := by
  match fs with
  | [] => rfl
  | [g] => rfl
  | g :: h :: fs =>
    show windowsFrom (period ((g :: h :: fs).map (Frame.map f))) 0 ((g :: h :: fs).map (Frame.map f))
      = (windowsFrom (period (g :: h :: fs)) 0 (g :: h :: fs)).map (Case.map f)
    rw [period_map, map_windowsFrom]

/-- The last of changed cases becomes the default as the last of the cases does. -/
lemma withDefault_map {f : α → β} {cs : List (Case α)} :
    withDefault (cs.map (Case.map f)) = (withDefault cs).map (Case.map f) := by
  induction cs with
  | nil => rfl
  | cons c cs ih =>
    cases cs with
    | nil => rfl
    | cons d cs => exact congrArg (Case.map f c :: ·) ih

/-- The windows of frames that follow one another have the images of the frames. -/
lemma images_windowsFrom {p start : Nat} {fs : List (Frame α)} :
    (windowsFrom p start fs).map (·.image) = fs.map (·.image) := by
  induction fs generalizing start with
  | nil => rfl
  | cons f fs ih => exact congrArg (f.image :: ·) ih

/-- Making the last case the default keeps the images. -/
lemma images_withDefault {cs : List (Case α)} :
    (withDefault cs).map (·.image) = cs.map (·.image) := by
  induction cs with
  | nil => rfl
  | cons c cs ih =>
    cases cs with
    | nil => rfl
    | cons d cs => exact congrArg (c.image :: ·) ih

/-- The windows over the whole period have the images of the frames. -/
lemma images_windows {fs : List (Frame α)} : (windows fs).map (·.image) = fs.map (·.image) := by
  match fs with
  | [] => rfl
  | [f] => rfl
  | f :: g :: fs => exact images_windowsFrom

/-- The cases of frames have the images of the frames. -/
lemma images_asCases {fs : List (Frame α)} : (asCases fs).map (·.image) = fs.map (·.image) :=
  images_withDefault.trans images_windows

/-- The image of a window is that of a frame. -/
lemma mem_windows {fs : List (Frame α)} {c} (h : c ∈ windows fs) : ∃ f ∈ fs, f.image = c.image := by
  apply List.mem_map.1
  rw [← images_windows]
  exact List.mem_map_of_mem h

/-- The image of a case is that of a frame. -/
lemma mem_asCases {fs : List (Frame α)} {c} (h : c ∈ asCases fs) : ∃ f ∈ fs, f.image = c.image := by
  apply List.mem_map.1
  rw [← images_asCases]
  exact List.mem_map_of_mem h

/-- The cases of changed frames are the cases of the frames, changed. -/
lemma asCases_map {f : α → β} {fs : List (Frame α)} :
    asCases (fs.map (Frame.map f)) = (asCases fs).map (Case.map f) := by
  rw [asCases, windows_map, withDefault_map]
  rfl

/-- A walk along changed frames ends where a walk along the frames does. -/
lemma indexAfter_map {f : α → β} {fs : List (Frame α)} {t} :
    indexAfter (fs.map (Frame.map f)) t = indexAfter fs t := by
  induction fs generalizing t with
  | nil => rfl
  | cons g fs ih =>
    show (if t < g.duration then _ else (indexAfter (fs.map (Frame.map f)) _).map _) = _
    rw [ih]
    rfl

/-- What changed frames show is what the frames show, changed. -/
lemma shown?_map {f : α → β} {fs : List (Frame α)} {time} :
    shown? time (fs.map (Frame.map f)) = (shown? time fs).map f := by
  have index : shownIndex (fs.map (Frame.map f)) time = shownIndex fs time := by
    rw [shownIndex, indexAfter_map, period_map, List.length_map]
    rfl
  rw [shown?, shown?, index, List.getElem?_map, Option.map_map, Option.map_map]
  rfl

/-- The cases of an animation select the frame that is shown. -/
lemma selects_asCases {fs : List (Frame α)} (pos : 0 < period fs) (dc : DrawContext) :
    ∃ a, shown? dc.time fs = some a ∧ Case.Selects dc (asCases fs) a ∧ ∃ f ∈ fs, f.image = a := by
  obtain ⟨a, shows, active, mem⟩ := shown pos dc
  have h : Case.Selects dc (windows fs) a := by rw [Case.Selects, active]; rfl
  exact ⟨a, shows, h.withDefault, mem⟩

/-- The windows of an animation agree with its cases, made exclusive. -/
lemma agree_windows {fs : List (Frame α)} (pos : 0 < period fs) :
    Case.Agree (windows fs) (Case.exclusive .always (asCases fs)) := by
  apply Case.Agree.exclusive_withDefault
  intro dc
  obtain ⟨a, _, active, _⟩ := shown pos dc
  rw [active]
  rfl

/-! ## Clock times -/

/-- The windows that follow one another, unless one of them ends later than the clock can count. -/
def windowsFrom? (period : Nat) : Nat → List (Frame α) → Option (List (Case α))
  | _, [] => some []
  | start, ⟨duration, image⟩ :: others => do
    let stop ← Bounds.uint64.fitNat? (start + duration)
    return ⟨.frame period start stop, image⟩ :: (← windowsFrom? period stop others)

/-- The windows of frames, unless the clock cannot count to the end of their period. -/
def windows? : List (Frame α) → Option (List (Case α))
  | [f] => some [⟨.always, f.image⟩]
  | frames => do windowsFrom? (← Bounds.uint64.fitNat? (period frames)) 0 frames

/-- No window ends later than the period does. -/
lemma windowsFrom?_eq {p start : Nat} {fs : List (Frame α)}
    (h : Bounds.uint64.Holds ↑(start + period fs)) :
    windowsFrom? p start fs = some (windowsFrom p start fs) := by
  induction fs generalizing start with
  | nil => rfl
  | cons f fs ih =>
    have later : Bounds.uint64.Holds ↑(start + f.duration + period fs) := by
      rw [Nat.add_assoc]
      exact h
    have stop : Bounds.uint64.Holds ↑(start + f.duration) :=
      ⟨Int.natCast_nonneg _, Int.le_trans (Int.ofNat_le.2 (Nat.le_add_right _ _)) later.2⟩
    rw [windowsFrom?, Bounds.fitNat?_of_holds stop]
    show (windowsFrom? p (start + f.duration) fs).bind _ = _
    rw [ih later]
    rfl

/-- The clock can count to the end of every window if it can count to the end of the period. -/
lemma windows?_eq {fs : List (Frame α)} (h : Bounds.uint64.Holds ↑(period fs)) :
    windows? fs = some (windows fs) := by
  match fs with
  | [f] => rfl
  | [] => rfl
  | f :: g :: fs =>
    have start : Bounds.uint64.Holds ↑(0 + period (f :: g :: fs)) := by
      rw [Nat.zero_add]
      exact h
    rw [windows?, Bounds.fitNat?_of_holds h]
    · exact windowsFrom?_eq start
    · exact nofun

end Frame

end Cityscape
