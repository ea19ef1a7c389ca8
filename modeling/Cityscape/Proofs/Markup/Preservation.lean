import Cityscape.Markup.Reader
import Mathlib.Tactic.Lemma

/-!
# What reading keeps

A reader makes trees in five ways only: it shows an image of its resolver in a sprite, it takes what
the resolver makes of a frame in short form, and it builds layers, switches and animations with the
checked constructors. A property of trees that these five ways keep is `Inherited`, and the main
statements, `Inherited.readImage` and `Inherited.readTileSet`, say that whatever a document is read as
has every such property. `Inherited.of_constructors` is for properties that have nothing to do with
what the checked constructors refuse.

The proof follows the reader token by token. `Place.All`, `Focus.All` and `Progress.All` say that all
images which are held on to somewhere have the property; each function of the reader keeps this, down
to `Inherited.step`, and the induction on the tokens is the last step.

Errors are followed on the way. `Ensures` is about the error of a computation as well as about its
result, and the error of a reader is always `Due`: it is one of the resolver, or else, if it is a
composition error, one that is allowed where the property holds. Those that a reader rules out before
it composes are never allowed (`ComposeError.OfContent`).
-/

namespace Cityscape

/-- What is true of a value is true of all that there is, if that is the value. -/
lemma forall_mem_some {α : Type} {P : α → Prop} {a : α} (h : P a) : ∀ b ∈ some a, P b :=
  fun _ hb => Option.some.inj hb ▸ h

/-- Anything is true of all that there is, if there is nothing. -/
lemma forall_mem_none {α : Type} {P : α → Prop} : ∀ b ∈ (none : Option α), P b :=
  fun b hb => absurd hb (Option.not_mem_none b)

/-- What is true of a list and of one more element is true of the list with it at the end. -/
lemma forall_mem_concat {α : Type} {P : α → Prop} {l : List α} {a : α} (hl : ∀ b ∈ l, P b)
    (ha : P a) : ∀ b ∈ l ++ [a], P b :=
  List.forall_mem_append.2 ⟨hl, List.forall_mem_singleton.2 ha⟩

/-- A composition error that says what is wrong with the images or the durations of a document, and
not that a node lacks variants. -/
def ComposeError.OfContent (cause : ComposeError) : Prop :=
  cause ≠ emptySwitch ∧ cause ≠ missingDefault ∧ cause ≠ emptyAnimation

/-- Every tile of a set has a property. -/
def TileSet.All (P : TileImage → Prop) (set : TileSet) : Prop := ∀ entry ∈ set.entries, P entry.2

/-- A tile with a property can be inserted in a set that has it. -/
lemma TileSet.all_insert {P : TileImage → Prop} {set : TileSet} {name image} (h : set.All P)
    (hi : P image) : (set.insert name image).All P := by
  obtain ⟨entries⟩ := set
  show ∀ entry ∈ insertEntry name image entries, P entry.2
  induction entries with
  | nil => exact List.forall_mem_singleton.2 hi
  | cons first rest ih =>
    obtain ⟨other, found⟩ := first
    obtain ⟨hf, hr⟩ := List.forall_mem_cons.1 h
    rw [insertEntry]
    split
    · exact List.forall_mem_cons.2 ⟨hi, h⟩
    · split
      · exact List.forall_mem_cons.2 ⟨hi, hr⟩
      · exact List.forall_mem_cons.2 ⟨hf, ih hr⟩

namespace Markup

/-! ## Results and errors -/

section
variable {ε α β : Type} {bad : ε → Prop} {good : α → Prop}

/-- What a computation yields has one property, and its error has another. -/
def Ensures (bad : ε → Prop) (good : α → Prop) : Except ε α → Prop
  | .ok a => good a
  | .error e => bad e

/-- A computation ensures what is shown of all its values and of all its errors. -/
lemma Ensures.intro {x : Except ε α} (ok : ∀ a, x = .ok a → good a)
    (error : ∀ e, x = .error e → bad e) : Ensures bad good x := by
  cases x with
  | ok a => exact ok a rfl
  | error e => exact error e rfl

/-- Two steps ensure what the second one does from what the first one ensures. -/
lemma Ensures.bind {x : Except ε α} {f : α → Except ε β} {good' : β → Prop}
    (h : Ensures bad good x) (hf : ∀ a, good a → Ensures bad good' (f a)) :
    Ensures bad good' (x >>= f) := by
  cases x with
  | ok a => exact hf a h
  | error e => exact h

/-- What a computation ensures can be passed on to a changed value. -/
lemma Ensures.map {x : Except ε α} {f : α → β} {good' : β → Prop}
    (h : Ensures bad good x) (hf : ∀ a, good a → good' (f a)) : Ensures bad good' (x.map f) := by
  cases x with
  | ok a => exact hf a h
  | error e => exact h

/-- What is ensured of values is true of the value. -/
lemma Ensures.of_ok {x : Except ε α} (h : Ensures bad good x) {a} (e : x = .ok a) :
    good a := by
  rwa [e] at h

/-- What is ensured of errors is true of the error. -/
lemma Ensures.of_error {x : Except ε α} (h : Ensures bad good x) {e} (eq : x = .error e) :
    bad e := by
  rwa [eq] at h

/-- More errors can be admitted. -/
lemma Ensures.mono {x : Except ε α} {bad' : ε → Prop} (h : Ensures bad good x)
    (hb : ∀ e, bad e → bad' e) : Ensures bad' good x :=
  .intro (fun _ => h.of_ok) fun e eq => hb e (h.of_error eq)

/-- A fold ensures what each step keeps. -/
lemma Ensures.foldlM {step : α → β → Except ε α}
    (h : ∀ a b, good a → Ensures bad good (step a b)) (l : List β) {a : α} (ha : good a) :
    Ensures bad good (l.foldlM step a) := by
  induction l generalizing a with
  | nil => exact ha
  | cons b l ih => exact (h a b ha).bind fun _ => ih

/-- A traversal ensures what each computation does. -/
lemma Ensures.mapM {f : β → Except ε α} {l : List β} (h : ∀ b ∈ l, Ensures bad good (f b)) :
    Ensures bad (fun as => ∀ a ∈ as, good a) (l.mapM f) := by
  induction l with
  | nil => exact nofun
  | cons b l ih =>
    obtain ⟨first, others⟩ := List.forall_mem_cons.1 h
    rw [List.mapM_cons]
    exact first.bind fun a ha => (ih others).bind fun as has => List.forall_mem_cons.2 ⟨ha, has⟩

end

/-! ## What comes from the resolver -/

/-- A reference is resolved to an image. -/
def Resolver.Gives (resolver : Resolver) (image : TileImage) : Prop :=
  resolver.default = .ok image ∨ ∃ name, resolver.named name = .ok image

/-- A reference, or a frame in short form, is refused with an error. -/
def Resolver.Raises (resolver : Resolver) (e : LoadError) : Prop :=
  resolver.default = .error e ∨ (∃ name, resolver.named name = .error e) ∨
    ∃ spec, resolver.frameSpec spec = .error e

/-- An error that a reader may report: one of its resolver, or one that does not come from the
checked constructors unless they may fail like that. -/
def Due (resolver : Resolver) (allowed : ComposeError → Prop) (e : LoadError) : Prop :=
  resolver.Raises e ∨ ∀ tag cause, e = .compose tag cause → allowed cause

/-- A property that trees have when a reader builds them from trees that have it. Where they cannot
be built, it is for a reason that is allowed. -/
structure Inherited (resolver : Resolver) (allowed : ComposeError → Prop)
    (P : TileImage → Prop) : Prop where
  sprite : ∀ {window image}, resolver.Gives image → P (.sprite window image)
  frameSpec : ∀ {spec image}, resolver.frameSpec spec = .ok image → P image
  layer : ∀ {below above}, P below → P above → Ensures allowed P (TileImage.layer? below above)
  switch : ∀ {cs default}, (∀ c ∈ cs, P c.image) → P default →
    Ensures allowed P (TileImage.switchOr? cs default)
  animation : ∀ {fs}, fs ≠ [] → (∀ f ∈ fs, 1 ≤ f.duration ∧ P f.image) →
    Ensures allowed P (TileImage.animation? fs)

/-! ## What a reader holds on to -/

section
variable (P : TileImage → Prop)

/-- All that has been read of a switch has a property. -/
def SwitchDraft.All (draft : SwitchDraft) : Prop :=
  (∀ c ∈ draft.cases, P c.image) ∧ ∀ t ∈ draft.default, P t

/-- All that has been read of an animation has a property, and every frame lasts. -/
def AnimationDraft.All (draft : AnimationDraft) : Prop :=
  ∀ f ∈ draft.frames, 1 ≤ f.duration ∧ P f.image

/-- All images in an open element, and around it, have a property. -/
def Place.All : {g : Goal} → Place g → Prop
  | _, .document => True
  | _, .layers below around => (∀ t ∈ below, P t) ∧ around.All
  | _, .case _ found draft around => (∀ t ∈ found, P t) ∧ draft.All P ∧ around.All
  | _, .default found draft around => (∀ t ∈ found, P t) ∧ draft.All P ∧ around.All
  | _, .frame _ found _ draft around => (∀ t ∈ found, P t) ∧ draft.All P ∧ around.All
  | _, .tile _ found set => (∀ t ∈ found, P t) ∧ set.All P

/-- All images in the innermost open element, and around it, have a property. -/
def Focus.All : {g : Goal} → Focus g → Prop
  | _, .holding place => place.All P
  | _, .sprite image around => P image ∧ around.All P
  | _, .switch draft around => draft.All P ∧ around.All P
  | _, .animation draft around => draft.All P ∧ around.All P
  | _, .prologue => True
  | _, .tileSet set => set.All P

/-- Whatever a document is read as has a property. -/
def Goal.All : (g : Goal) → g.Result → Prop
  | .image, t => P t
  | .tileSet, set => set.All P

/-- All images have a property, in an element or at the end of the document. -/
def Outcome.All {g : Goal} : Outcome g → Prop
  | .inside focus => focus.All P
  | .done result => g.All P result

/-- All images have a property, at a position or at the end of the document. -/
def Progress.All {g : Goal} : Progress g → Prop
  | .reading p => p.focus.All P
  | .done result => g.All P result

end

section
variable {g : Goal} {resolver : Resolver} {allowed : ComposeError → Prop} {P : TileImage → Prop}

/-! ## Trees that a reader builds -/

/-- Every error is due that is no composition error. -/
lemma due_of_ne_compose {e : LoadError} (h : ∀ tag cause, e ≠ .compose tag cause) :
    Due resolver allowed e :=
  .inr fun tag cause eq => absurd eq (h tag cause)

/-- A composition error is due if it is allowed. -/
lemma due_compose {tag cause} (h : allowed cause) : Due resolver allowed (.compose tag cause) := by
  refine .inr fun tag' cause' eq => ?_
  cases eq
  exact h

/-- The check of sizes fails for a reason of content. -/
lemma ofContent_of_checkSizes {ts t cause}
    (h : (do TileImage.checkSizes ts; return t : Except ComposeError TileImage) = .error cause) :
    cause.OfContent := by
  cases ts with
  | nil => cases h
  | cons first others =>
    rw [TileImage.checkSizes] at h
    split at h
    · cases h
      exact ⟨nofun, nofun, nofun⟩
    · cases h

/-- A layer is refused for a reason of content. -/
lemma ofContent_of_layer? {below above cause} (h : TileImage.layer? below above = .error cause) :
    cause.OfContent := by
  rw [TileImage.layer?] at h
  split at h
  · cases h
  · cases h
    exact ⟨nofun, nofun, nofun⟩

/-- A switch with a default is refused for a reason of content. -/
lemma ofContent_of_switchOr? {cs default cause}
    (h : TileImage.switchOr? cs default = .error cause) : cause.OfContent := by
  rw [TileImage.switchOr?, TileImage.switch?, List.getLast?_concat] at h
  exact ofContent_of_checkSizes h

/-- An animation with frames is refused for a reason of content. -/
lemma ofContent_of_animation? {fs : List (Frame TileImage)} {cause} (nonempty : fs ≠ [])
    (h : TileImage.animation? fs = .error cause) : cause.OfContent := by
  have nonempty : ¬fs.isEmpty = true := fun empty => nonempty (List.isEmpty_iff.1 empty)
  rw [TileImage.animation?, if_neg nonempty] at h
  split at h
  · exact ofContent_of_checkSizes h
  · cases h
    exact ⟨nofun, nofun, nofun⟩

/-- A property that the trees have which the checked constructors make is inherited, and with it the
errors are about the content of a document. -/
lemma Inherited.of_constructors
    (sprite : ∀ {window image}, resolver.Gives image → P (.sprite window image))
    (frameSpec : ∀ {spec image}, resolver.frameSpec spec = .ok image → P image)
    (layer : ∀ {below above t}, P below → P above → TileImage.layer? below above = .ok t → P t)
    (switch : ∀ {cs default t}, (∀ c ∈ cs, P c.image) → P default →
      TileImage.switchOr? cs default = .ok t → P t)
    (animation : ∀ {fs t}, (∀ f ∈ fs, 1 ≤ f.duration ∧ P f.image) →
      TileImage.animation? fs = .ok t → P t) :
    Inherited resolver ComposeError.OfContent P where
  sprite := sprite
  frameSpec := frameSpec
  layer hb ha := .intro (fun _ => layer hb ha) fun _ => ofContent_of_layer?
  switch hc hd := .intro (fun _ => switch hc hd) fun _ => ofContent_of_switchOr?
  animation nonempty hf := .intro (fun _ => animation hf) fun _ => ofContent_of_animation? nonempty

/-- The errors of the checked constructors are due if they are allowed. -/
lemma ensures_composed {x : Except ComposeError TileImage} {tag} (h : Ensures allowed P x) :
    Ensures (Due resolver allowed) P (x.mapError (.compose tag)) := by
  cases x with
  | ok t => exact h
  | error cause => exact due_compose h

/-- The end of a switch makes a tree with the property, or reports an error that is due. -/
lemma Inherited.ensures_switch (h : Inherited resolver allowed P) {draft : SwitchDraft}
    (hd : draft.All P) : Ensures (Due resolver allowed) P draft.finish := by
  obtain ⟨cases, default⟩ := draft
  obtain ⟨hc, hdef⟩ := hd
  cases default with
  | none => exact due_of_ne_compose nofun
  | some default =>
    have built := h.switch hc (hdef default rfl)
    exact ensures_composed built

/-- The end of an animation makes a tree with the property, or reports an error that is due. -/
lemma Inherited.ensures_animation (h : Inherited resolver allowed P) {draft : AnimationDraft}
    (hd : draft.All P) : Ensures (Due resolver allowed) P draft.finish := by
  rw [AnimationDraft.finish]
  split
  case isTrue => exact due_of_ne_compose nofun
  case isFalse some =>
    have nonempty : draft.frames ≠ [] := fun empty => some (List.isEmpty_iff.2 empty)
    have built := h.animation nonempty hd
    exact ensures_composed built

/-! ## The end of an element -/

/-- A place that receives an image with the property keeps it, or reports an error that is due. -/
lemma Inherited.receive (h : Inherited resolver allowed P) {place : Place g} (hp : place.All P) {t}
    (ht : P t) : Ensures (Due resolver allowed) (Outcome.All P) (place.receive t) := by
  cases place with
  | document => exact ht
  | layers below around =>
    obtain ⟨hb, ha⟩ := hp
    cases below with
    | none => exact ⟨forall_mem_some ht, ha⟩
    | some below =>
      have built := h.layer (hb below rfl) ht
      rw [Place.receive]
      cases e : TileImage.layer? below t with
      | ok layered =>
        rw [e] at built
        exact ⟨forall_mem_some built, ha⟩
      | error cause =>
        rw [e] at built
        exact due_compose built
  | case => exact ⟨forall_mem_some ht, hp.2⟩
  | default => exact ⟨forall_mem_some ht, hp.2⟩
  | frame => exact ⟨forall_mem_some ht, hp.2⟩
  | tile => exact ⟨forall_mem_some ht, hp.2⟩

/-- The image of a frame has the property, or an error is reported that is due. -/
lemma Inherited.frameImage (h : Inherited resolver allowed P) {found : Option TileImage}
    (hf : ∀ t ∈ found, P t) {text} :
    Ensures (Due resolver allowed) P (frameImage resolver found text) := by
  cases found with
  | some t => exact hf t rfl
  | none =>
    rw [Markup.frameImage]
    split
    · exact due_of_ne_compose nofun
    · cases e : resolver.frameSpec (Text.trim text) with
      | ok t => exact h.frameSpec e
      | error => exact .inl (.inr (.inr ⟨_, e⟩))

/-- The end of a place keeps the property, or reports an error that is due. -/
lemma Inherited.close_place (h : Inherited resolver allowed P) {place : Place g} (hp : place.All P) :
    Ensures (Due resolver allowed) (Outcome.All P) (place.close resolver) := by
  cases place with
  | document => exact due_of_ne_compose nofun
  | layers below around =>
    cases below with
    | none => exact due_of_ne_compose nofun
    | some t => exact h.receive hp.2 (hp.1 t rfl)
  | case condition found draft around =>
    obtain ⟨hf, ⟨hc, hd⟩, ha⟩ := hp
    cases found with
    | none => exact due_of_ne_compose nofun
    | some t =>
      exact ⟨⟨forall_mem_concat hc (hf t rfl), hd⟩, ha⟩
  | default found draft around =>
    obtain ⟨hf, ⟨hc, _⟩, ha⟩ := hp
    cases found with
    | none => exact due_of_ne_compose nofun
    | some t => exact ⟨⟨hc, hf⟩, ha⟩
  | frame duration found text draft around =>
    obtain ⟨hf, hd, ha⟩ := hp
    refine (h.frameImage hf).bind fun t ht => ⟨?_, ha⟩
    -- A frame lasts because its duration was raised when it was made.
    have lasts : 1 ≤ (Frame.lasting duration t).duration := Nat.le_max_right duration 1
    exact forall_mem_concat hd ⟨lasts, ht⟩
  | tile name found set =>
    obtain ⟨hf, hs⟩ := hp
    cases found with
    | none => exact due_of_ne_compose nofun
    | some t => exact TileSet.all_insert hs (hf t rfl)

/-- The end of an element keeps the property, or reports an error that is due. -/
lemma Inherited.close (h : Inherited resolver allowed P) {focus : Focus g} (hf : focus.All P) :
    Ensures (Due resolver allowed) (Outcome.All P) (focus.close resolver) := by
  cases focus with
  | holding place => exact h.close_place hf
  | sprite image around => exact h.receive hf.2 hf.1
  | switch draft around => exact (h.ensures_switch hf.1).bind fun t ht => h.receive hf.2 ht
  | animation draft around => exact (h.ensures_animation hf.1).bind fun t ht => h.receive hf.2 ht
  | prologue => exact due_of_ne_compose nofun
  | tileSet set => exact hf

/-! ## The beginning of an element -/

/-- An error in an offset is due. -/
lemma ensures_shift {el : Element} : Ensures (Due resolver allowed) (fun _ => True) el.shift := by
  rw [Element.shift]
  cases el.value? "at" with
  | none => trivial
  | some value =>
    dsimp only
    cases Text.pair? Bounds.int32 value.toList with
    | none => exact due_of_ne_compose nofun
    | some => trivial

/-- An error in a number is due. -/
lemma ensures_natural {el : Element} {bounds key default} :
    Ensures (Due resolver allowed) (fun _ => True) (el.natural bounds key default) := by
  rw [Element.natural]
  cases el.value? key with
  | none => trivial
  | some value =>
    dsimp only
    cases Text.integer? bounds (Text.trimChars value.toList) with
    | none => exact due_of_ne_compose nofun
    | some => trivial

/-- An error in the condition on one side is due. -/
lemma ensures_addCondition {el : Element} {before side} :
    Ensures (Due resolver allowed) (fun _ => True) (el.addCondition before side) := by
  rw [Element.addCondition]
  cases el.value? side.attributeName with
  | none => trivial
  | some value =>
    dsimp only
    cases TileSpec.read value with
    | error => exact due_of_ne_compose nofun
    | ok => cases before <;> trivial

/-- An error in a condition is due. -/
lemma ensures_condition {el : Element} :
    Ensures (Due resolver allowed) (fun _ => True) el.condition := by
  refine (Ensures.foldlM (fun _ _ _ => ensures_addCondition) Side.all trivial).bind fun found _ => ?_
  cases found with
  | none => exact due_of_ne_compose nofun
  | some => trivial

/-- A name resolves to what the resolver gives, or an error is reported that is due. -/
lemma ensures_named {name} :
    Ensures (Due resolver allowed) resolver.Gives (resolver.named name) := by
  cases e : resolver.named name with
  | ok => exact Or.inr ⟨name, e⟩
  | error => exact Or.inl (.inr (.inl ⟨name, e⟩))

/-- The default resolves to what the resolver gives, or an error is reported that is due. -/
lemma ensures_default : Ensures (Due resolver allowed) resolver.Gives resolver.default := by
  cases e : resolver.default with
  | ok => exact Or.inl e
  | error => exact Or.inl (.inl e)

/-- A sprite has the property, or an error is reported that is due. -/
lemma Inherited.ensures_sprite (h : Inherited resolver allowed P) {el : Element} :
    Ensures (Due resolver allowed) P (el.sprite resolver) := by
  have shown : ∀ image, resolver.Gives image → Ensures (Due resolver allowed) P (do
      let shift ← el.shift
      let north ← el.natural Bounds.uint32 "overlap-north" 0
      let east ← el.natural Bounds.uint32 "overlap-east" 0
      return .sprite ⟨shift.1, shift.2, north, east⟩ image) := by
    intro image hi
    refine ensures_shift.bind fun shift _ => ?_
    refine ensures_natural.bind fun north _ => ?_
    refine ensures_natural.bind fun east _ => ?_
    exact h.sprite hi
  rw [Element.sprite]
  cases el.value? "src" with
  | some name => exact ensures_named.bind shown
  | none => exact ensures_default.bind shown

/-- What describes an image begins with the property, or reports an error that is due. -/
lemma Inherited.begin (h : Inherited resolver allowed P) {around : Place g} (ha : around.All P)
    (d : Descriptor) (el : Element) :
    Ensures (Due resolver allowed) (Focus.All P) (d.begin resolver el around) := by
  cases d with
  | image => exact h.ensures_sprite.bind fun image hi => ⟨hi, ha⟩
  | animation => exact ⟨fun _ hf => absurd hf List.not_mem_nil, ha⟩
  | switch => exact ⟨⟨fun _ hc => absurd hc List.not_mem_nil, nofun⟩, ha⟩
  | layers => exact ⟨nofun, ha⟩

/-- At a place, an element is entered with the property, or an error is reported that is due. -/
lemma Inherited.enter_place (h : Inherited resolver allowed P) {place : Place g} (hp : place.All P)
    (el : Element) :
    Ensures (Due resolver allowed) (fun inner => ∀ focus ∈ inner, Focus.All P focus)
      (place.enter resolver el) := by
  unfold Place.enter
  cases Descriptor.ofTag? el.name with
  | some d =>
    exact (h.begin hp d el).bind fun focus hf => forall_mem_some hf
  | none =>
    cases place with
    | document => exact due_of_ne_compose nofun
    | _ => exact nofun

/-- Wherever it stands, an element is entered with the property, or an error is reported that is due.
-/
lemma Inherited.enter (h : Inherited resolver allowed P) {focus : Focus g} (hf : focus.All P)
    (el : Element) :
    Ensures (Due resolver allowed) (fun inner => ∀ focus ∈ inner, Focus.All P focus)
      (focus.enter resolver el) := by
  cases focus with
  | holding place => exact h.enter_place hf el
  | sprite => exact nofun
  | switch draft around =>
    rw [Focus.enter]
    split
    · refine ensures_condition.bind fun condition _ => ?_
      exact forall_mem_some ⟨nofun, hf⟩
    · split
      · exact forall_mem_some ⟨nofun, hf⟩
      · exact nofun
  | animation draft around =>
    rw [Focus.enter]
    split
    · refine ensures_natural.bind fun duration _ => ?_
      exact forall_mem_some ⟨nofun, hf⟩
    · exact nofun
  | prologue => exact forall_mem_some fun _ he => absurd he List.not_mem_nil
  | tileSet set =>
    rw [Focus.enter]
    split
    · split
      · exact forall_mem_some ⟨nofun, hf⟩
      · exact due_of_ne_compose nofun
    · exact nofun

/-! ## Tokens -/

/-- Going on behind a token keeps the property. -/
lemma Outcome.all_progress {o : Outcome g} (h : o.All P) : o.progress.All P := by
  cases o <;> exact h

/-- A text adds no images, so it keeps the property. -/
lemma Focus.all_addText {focus : Focus g} (h : focus.All P) (content : String) :
    (focus.addText content).All P := by
  cases focus with
  | holding place => cases place <;> exact h
  | _ => exact h

/-- A start tag keeps the property, or reports an error that is due. -/
lemma Inherited.start (h : Inherited resolver allowed P) {focus : Focus g} (hf : focus.All P)
    (el : Element) : Ensures (Due resolver allowed) (Progress.All P) (focus.start resolver el) := by
  refine (h.enter hf el).bind fun inner hi => ?_
  cases inner with
  | none => exact hf
  | some inner =>
    show Ensures _ _ (if el.empty then _ else _)
    split
    · exact (h.close (hi inner rfl)).bind fun o ho => o.all_progress ho
    · exact hi inner rfl

/-- Reading one token keeps the property of all images that are held on to. -/
lemma Inherited.step (h : Inherited resolver allowed P) {p : Position g} (hp : p.focus.All P)
    (token : Token) : Ensures (Due resolver allowed) (Progress.All P) (p.step resolver token) := by
  obtain ⟨focus, skipped⟩ := p
  cases token with
  | malformed => exact due_of_ne_compose nofun
  | text content =>
    rw [Position.step]
    split
    · exact focus.all_addText hp content
    · exact hp
  | start el =>
    rw [Position.step]
    split
    · exact h.start hp el
    · exact hp
  | close =>
    cases skipped with
    | zero => exact (h.close hp).bind fun o ho => o.all_progress ho
    | succ => exact hp

/-- Reading to the end keeps it, whatever the tokens are. -/
lemma Inherited.read (h : Inherited resolver allowed P) {p : Position g} (hp : p.focus.All P)
    (tokens : List Token) :
    Ensures (Due resolver allowed) (fun r => g.All P r.1) (p.read resolver tokens) := by
  induction tokens generalizing p with
  | nil => exact due_of_ne_compose nofun
  | cons token rest ih =>
    have step := h.step hp token
    rw [Position.read]
    cases e : p.step resolver token with
    | error => rw [e] at step; exact step
    | ok progress =>
      rw [e] at step
      cases progress with
      | done result => exact step
      | reading next => exact ih step

/-- A document is read as an image with the property, or an error is reported that is due. -/
lemma Inherited.readImage (h : Inherited resolver allowed P) (document : List Token) :
    Ensures (Due resolver allowed) P (readImage resolver document) := by
  have start : Focus.All P (.holding .document : Focus .image) := trivial
  exact (h.read (p := ⟨_, 0⟩) start document).map fun _ hr => hr

/-- A document is read as tiles with the property, or an error is reported that is due. -/
lemma Inherited.readTileSet (h : Inherited resolver allowed P) (document : List Token) :
    Ensures (Due resolver allowed) (TileSet.All P) (readTileSet resolver document) := by
  have start : Focus.All P (.prologue : Focus .tileSet) := trivial
  exact (h.read (p := ⟨_, 0⟩) start document).map fun _ hr => hr

end

end Markup

end Cityscape
