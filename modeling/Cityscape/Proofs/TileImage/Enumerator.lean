import Cityscape.Proofs.TileImage.Enumeration

/-!
# Enumerating variants call by call

An `Enumerator` is an enumeration of variants under way. It is asked for one variant at a time
(`next?`) and keeps what it needs to go on: the variants of a layer are enumerated by two enumerators,
of which the one for the image above is started anew for each variant of the image below. A call may
have to start several enumerators before it finds a variant, and nothing in its definition bounds their
number: `next?` is a fixed point, and `none` is a call that does not return.

`Gives` says what an enumerator answers, call after call and for ever. It is proved by coinduction
(`Gives.of_bisimilar`): a call returns what the list begins with, and the enumerator that is left gives
the rest of it. For the two kinds of enumerators that go through others the relation between
enumerators and lists is `Pairing` and `Nesting`.

By the main statement, `start_gives`, the enumerator of a tree gives the variants of the tree, so every
call returns, and that of a layer gives all pairs of variants.
-/

namespace Cityscape

/-- An enumeration of variants under way. -/
inductive Enumerator where
  /-- A single variant, unless it has been given. -/
  | once (left : Option (Case TileImage))
  | sprite (window : Window) (inner : Enumerator)
  /-- Layers, with the enumeration of the images below. Once there is a current one of these, it is
  combined with what is left of the variants of the image above. -/
  | layers (above : TileImage) (below : Enumerator) (current : Option (Case TileImage))
      (left : Option Enumerator)
  /-- Cases that wait for their turn, and the enumeration of the one whose turn it is. -/
  | cases (waiting : List (Case TileImage)) (opened : Option (Case Enumerator))

namespace Enumerator

/-- The enumeration of a tree, before the first variant. -/
def start : TileImage → Enumerator
  | .source pixels basis => once (some ⟨.always, .source pixels basis⟩)
  | .scaled pixels basis target => once (some ⟨.always, .scaled pixels basis target⟩)
  | .sprite window child => sprite window (start child)
  | .layer below above => layers above (start below) none none
  | .switch cs => cases (Case.exclusive .always cs) none
  | .animation fs => cases (Frame.windows fs) none

mutual

/-- The next variant, or that there is none, and the enumeration behind it. -/
def next? : Enumerator → Option (Option (Case TileImage) × Enumerator)
  | once left => return (left, once none)
  | sprite window inner => do
    let (found, inner) ← inner |>.next?
    return (found.map (Case.map (.sprite window)), sprite window inner)
  | layers above below (some b) (some left) => do
    match ← left |>.next? with
    | (some a, left) =>
      return (some ⟨b.condition.conj a.condition, .layer b.image a.image⟩,
        layers above below (some b) (some left))
    | (none, left) => below |>.advance? above (some b) (some left)
  | layers above below current left => below |>.advance? above current left
  | cases waiting (some ⟨guard, inner⟩) => do
    match ← inner |>.next? with
    | (some r, inner) =>
      return (some ⟨guard.conj r.condition, r.image⟩, cases waiting (some ⟨guard, inner⟩))
    | (none, _) => cases waiting none |>.next?
  | cases (⟨guard, image⟩ :: waiting) none => cases waiting (some ⟨guard, start image⟩) |>.next?
  | cases [] none => return (none, cases [] none)
partial_fixpoint

/-- The next layer after all with the current image below, which is the first one with the next image
below. -/
def advance? (above : TileImage) (below : Enumerator) (current : Option (Case TileImage))
    (left : Option Enumerator) : Option (Option (Case TileImage) × Enumerator) := do
  match ← below |>.next? with
  | (some b, below) => layers above below (some b) (some (start above)) |>.next?
  | (none, below) => return (none, layers above below current left)
partial_fixpoint

end

/-- What a call returns, after so many calls before it, if they all return. -/
def answer? : Nat → Enumerator → Option (Option (Case TileImage))
  | 0, s => do return (← s.next?).1
  | n + 1, s => do answer? n (← s.next?).2

/-- All calls return: the variants of a list one by one, and none when there are no more. -/
def Gives (s : Enumerator) (l : List (Case TileImage)) : Prop := ∀ n, s.answer? n = some l[n]?

variable {s inner below left : Enumerator} {l ls bs as : List (Case TileImage)}

/-! ## Coinduction -/

/-- A call returns what a list begins with, and the enumeration behind it is related to the rest of
the list. -/
def Returns (R : Enumerator → List (Case TileImage) → Prop) (l : List (Case TileImage))
    (call : Option (Option (Case TileImage) × Enumerator)) : Prop :=
  ∃ s, call = some (l.head?, s) ∧ R s l.tail

/-- A relation that every call keeps relates enumerations to what they give. -/
lemma Gives.of_bisimilar {R : Enumerator → List (Case TileImage) → Prop}
    (step : ∀ s l, R s l → Returns R l s.next?) (h : R s l) : Gives s l := by
  intro n
  induction n generalizing s l with
  | zero =>
    obtain ⟨s', call, _⟩ := step s l h
    rw [answer?, call, ← List.head?_eq_getElem?]
    rfl
  | succ n ih =>
    obtain ⟨s', call, h'⟩ := step s l h
    rw [answer?, call, ← List.getElem?_tail]
    exact ih h'

/-- Every call of an enumeration returns what is left to give, and gives the rest afterwards. -/
lemma Gives.returns (h : Gives s l) : Returns Gives l s.next? := by
  cases call : s.next? with
  | none =>
    have first := h 0
    rw [answer?, call] at first
    exact nomatch first
  | some r =>
    refine ⟨r.2, ?_, fun n => ?_⟩
    · have first := h 0
      rw [answer?, call, ← List.head?_eq_getElem?] at first
      rw [← Option.some.inj first]
    · have later := h (n + 1)
      rw [answer?, call, ← List.getElem?_tail] at later
      exact later

/-! ## Enumerators that do not go through others -/

/-- A single variant is given once, if it has not been given yet. -/
lemma gives_once (left : Option (Case TileImage)) : Gives (once left) left.toList := by
  apply Gives.of_bisimilar (R := fun s l => ∃ left, s = once left ∧ l = left.toList)
  · rintro _ _ ⟨left, rfl, rfl⟩
    refine ⟨once none, ?_, none, rfl, ?_⟩
    · rw [next?, Option.head?_toList]
      rfl
    · cases left <;> rfl
  · exact ⟨left, rfl, rfl⟩

/-- A sprite gives the variants of its child, shown through the window. -/
lemma Gives.sprite {window : Window} (h : Gives inner l) :
    Gives (sprite window inner) (l.map (Case.map (.sprite window))) := by
  apply Gives.of_bisimilar
    (R := fun s l => ∃ e k, s = .sprite window e ∧ l = k.map (Case.map (.sprite window)) ∧ Gives e k)
  · rintro _ _ ⟨e, k, rfl, rfl, h⟩
    obtain ⟨e', call, h'⟩ := h.returns
    refine ⟨.sprite window e', ?_, e', k.tail, rfl, List.map_tail.symm, h'⟩
    rw [next?, call, List.head?_map]
    rfl
  · exact ⟨inner, l, rfl, rfl, h⟩

/-! ## Layers -/

section
variable {above : TileImage} {current : Option (Case TileImage)} {last : Option Enumerator}

/-- All layers of some variants with those of the image above. -/
def allLayers (as bs : List (Case TileImage)) : List (Case TileImage) :=
  Case.nest bs fun t => as.map (Case.map (.layer t))

/-- The layers that are left: those with the current image below, and those with the images below
that have not been reached. -/
inductive Pairing (above : TileImage) (as : List (Case TileImage)) :
    Enumerator → List (Case TileImage) → Prop where
  | idle {below : Enumerator} {bs : List (Case TileImage)} :
    Gives below bs →
    Pairing above as (layers above below none none) (allLayers as bs)
  | busy {below left : Enumerator} {b : Case TileImage} {bs ls : List (Case TileImage)} :
    Gives below bs →
    Gives left ls →
    Pairing above as (layers above below (some b) (some left))
      ((ls.map (Case.map (.layer b.image))).map (Case.under b.condition) ++ allLayers as bs)

/-- With the next image below the layers begin that are left. The induction is on the images below,
since as many of them are passed over as have no layers. -/
lemma returns_advance (ha : Gives (start above) as) (hb : Gives below bs)
    (spent : ∀ below, Gives below [] → Pairing above as (layers above below current last) []) :
    Returns (Pairing above as) (allLayers as bs) (advance? above below current last) := by
  induction bs generalizing below current last with
  | nil =>
    obtain ⟨below', call, hb'⟩ := hb.returns
    refine ⟨layers above below' current last, ?_, spent below' hb'⟩
    rw [advance?, call]
    rfl
  | cons b bs ih =>
    obtain ⟨below', call, hb'⟩ := hb.returns
    obtain ⟨left, callAbove, hl⟩ := ha.returns
    have begun : advance? above below current last =
        (layers above below' (some b) (some (start above))).next? := by
      rw [advance?, call]
      rfl
    rw [begun, next?, callAbove]
    cases as with
    | nil => exact ih hb' fun _ none => .busy none hl
    | cons a as => exact ⟨_, rfl, .busy hb' hl⟩

/-- Layers give the variants above once for each variant below. -/
lemma Gives.layers (ha : Gives (start above) as) (hb : Gives below bs) :
    Gives (layers above below none none) (allLayers as bs) := by
  apply Gives.of_bisimilar (R := Pairing above as)
  · intro s l h
    cases h with
    | idle hb =>
      rw [next?]
      · exact returns_advance ha hb fun _ => .idle
      · exact nofun
    | @busy below left b bs ls hb hl =>
      obtain ⟨left', call, hl'⟩ := hl.returns
      rw [next?, call]
      cases ls with
      | nil => exact returns_advance ha hb fun _ none => .busy none hl'
      | cons a ls => exact ⟨_, rfl, .busy hb hl'⟩
  · exact .idle hb

end

/-! ## Cases -/

section
variable {variants : TileImage → List (Case TileImage)} {waiting : List (Case TileImage)}

/-- The variants that are left: those of the case whose turn it is, and those of the cases that
wait. -/
inductive Nesting (variants : TileImage → List (Case TileImage)) :
    Enumerator → List (Case TileImage) → Prop where
  | closed {waiting : List (Case TileImage)} :
    (∀ c ∈ waiting, Gives (start c.image) (variants c.image)) →
    Nesting variants (cases waiting none) (Case.nest waiting variants)
  | opened {waiting ls : List (Case TileImage)} {guard : Condition} {inner : Enumerator} :
    (∀ c ∈ waiting, Gives (start c.image) (variants c.image)) →
    Gives inner ls →
    Nesting variants (cases waiting (some ⟨guard, inner⟩))
      (ls.map (Case.under guard) ++ Case.nest waiting variants)

/-- Cases that have no variants are passed over. -/
lemma returns_closed (hw : ∀ c ∈ waiting, Gives (start c.image) (variants c.image)) :
    Returns (Nesting variants) (Case.nest waiting variants) (cases waiting none).next? := by
  induction waiting with
  | nil =>
    refine ⟨cases [] none, ?_, .closed hw⟩
    rw [next?]
    rfl
  | cons c waiting ih =>
    obtain ⟨first, others⟩ := List.forall_mem_cons.1 hw
    obtain ⟨inner, call, hi⟩ := first.returns
    rw [next?, next?, call, Case.nest_cons]
    cases e : variants c.image with
    | nil => exact ih others
    | cons r ls =>
      rw [e] at hi
      exact ⟨_, rfl, .opened others hi⟩

/-- Cases give the variants of their images, one case after another. -/
lemma gives_cases (hw : ∀ c ∈ waiting, Gives (start c.image) (variants c.image)) :
    Gives (cases waiting none) (Case.nest waiting variants) := by
  apply Gives.of_bisimilar (R := Nesting variants)
  · intro s l h
    cases h with
    | closed hw => exact returns_closed hw
    | @opened waiting ls guard inner hw hi =>
      obtain ⟨inner', call, hi'⟩ := hi.returns
      rw [next?, call]
      cases ls with
      | nil => exact returns_closed hw
      | cons r ls => exact ⟨_, rfl, .opened hw hi'⟩
  · exact .closed hw

end

/-! ## Trees -/

/-- The enumerator of a tree gives its variants. -/
lemma start_gives (t : TileImage) : Gives (start t) t.variants.toList := by
  induction t using TileImage.induction with
  | onSource => exact gives_once _
  | onScaled => exact gives_once _
  | onSprite window child ih =>
    rw [TileImage.variants_sprite]
    exact ih.sprite
  | onLayer below above ihb iha =>
    rw [TileImage.variants_layer]
    exact iha.layers ihb
  | onSwitch cs ih =>
    rw [TileImage.variants_switch]
    apply gives_cases
    intro _ hm
    obtain ⟨c, hc, image⟩ := Case.mem_exclusive hm
    exact image ▸ ih c hc
  | onAnimation fs ih =>
    rw [TileImage.variants_animation]
    apply gives_cases
    intro _ hm
    obtain ⟨f, hf, image⟩ := Frame.mem_windows hm
    exact image ▸ ih f hf

/-- Every valid tree has a variant. -/
lemma variants_ne_nil {t : TileImage} (h : TileImage.Valid t) : t.variants.toList ≠ [] := by
  intro none
  have active := h.sized.active_variants ⟨0, fun _ => .none, ⟨0, 0⟩⟩
  rw [none] at active
  exact nomatch active

/-- Every call for a variant returns. The calls for the variants of a tree return them one after
another, and none from then on; those of a layer are all pairs of a variant of the image below and one
of the image above, in the order of the first and then of the second. A valid tree has at least one
variant. -/
theorem calls_give_variants :
    (∀ t : TileImage, Gives (start t) t.variants.toList) ∧
    (∀ below above : TileImage, Gives (layers above (start below) none none)
      (below.variants.toList.flatMap fun b => above.variants.toList.map fun a =>
        ⟨b.condition.conj a.condition, .layer b.image a.image⟩)) ∧
    ∀ t : TileImage, TileImage.Valid t → ∃ r s, (start t).next? = some (some r, s) := by
  refine ⟨start_gives, fun below above => ?_, fun t valid => ?_⟩
  · have pairs := (start_gives above).layers (start_gives below)
    simp only [allLayers, Case.nest, List.map_map] at pairs
    exact pairs
  · obtain ⟨r, others, e⟩ := List.exists_cons_of_ne_nil (variants_ne_nil valid)
    obtain ⟨s, call, _⟩ := (start_gives t).returns
    rw [e] at call
    exact ⟨r, s, call⟩

/-- The first nine calls for a variant of the crossing return one, the tenth returns none. -/
theorem calls_give_variants_crossing :
    TileImage.Valid TileImage.Crossing.image ∧
      (∃ r s, (start TileImage.Crossing.image).next? = some (some r, s)) ∧
      (∃ r, (start TileImage.Crossing.image).answer? 8 = some (some r)) ∧
      (start TileImage.Crossing.image).answer? 9 = some none := by
  obtain ⟨_, layers, some⟩ := calls_give_variants
  have calls := layers (.switch TileImage.Crossing.road)
    (.sprite ⟨0, 8, 4, 0⟩ (.animation TileImage.Crossing.light))
  exact ⟨TileImage.Crossing.valid, some _ TileImage.Crossing.valid, ⟨_, calls 8⟩, calls 9⟩

end Enumerator

end Cityscape
