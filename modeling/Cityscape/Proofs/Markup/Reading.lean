import Cityscape.Proofs.Markup.Content

/-!
# Reading documents

The reader goes through the tokens of a document once and keeps its own account of what is open.
The main statement, `read_element`, says that this account is right: behind the start tag of any
element, in any place, reading goes on to the end tag of the same element, what has been read is
what the element means, and what follows is left unread.

The proof is one induction on nodes (`Node.reads`) for all places, and all that may follow, at once.
The step is `read_sense`, which goes through the places that an element may stand in. In each of
them a lemma says what is read from inside to the end of an element that has a meaning there:
`read_sprite`, `read_layers`, `read_switch` and `read_animation` for images, `read_case`,
`read_default`, `read_frame` and `read_tile` for the elements around them.
-/

namespace Cityscape.Markup

section
variable {g : Goal} {resolver : Resolver}

/-! ## Elements that describe images -/

section
variable {content : List Node} {around : Place g}

/-- What is inside a sprite does not matter. -/
lemma read_sprite (ih : ∀ n ∈ content, n.Reads resolver) (image : TileImage)
    (rest : List Token) :
    (Focus.sprite image around).read resolver (Node.tokensOf content ++ .close :: rest) =
      around.receive image >>= Outcome.resume resolver rest := by
  have nothing : ∀ (s : Unit) (m : Meaning),
      (Focus.sprite image around).absorb m = .ok (.inside (.sprite image around)) :=
    fun _ m => by cases m <;> rfl
  refine (@read_content _ _ Unit (fun _ => .sprite image around) (fun s _ => .ok s) nothing _ ih ()
    _).trans ?_
  induction meaningsOf resolver content with
  | nil => exact Focus.read_close
  | cons _ _ ihs => exact ihs

/-- A layered image takes in images, each over those before it. -/
lemma takes_layers :
    Takes (fun below => .holding (.layers below around)) Sense.image stack where
  text _ _ := rfl
  element below sense := by
    simp only [Focus.absorb]
    cases sense.image with
    | none => rfl
    | some image =>
      refine bind_congr fun image => ?_
      cases below with
      | none => rfl
      | some below =>
        rw [Place.receive, stack]
        cases TileImage.layer? below image <;> rfl

/-- A layered image is read as the stack of the images in it. -/
lemma read_layers (ih : ∀ n ∈ content, n.Reads resolver) (rest : List Token) :
    (Focus.holding (.layers none around)).read resolver (Node.tokensOf content ++ .close :: rest) =
      layered (meaningsOf resolver content) >>= fun image =>
        around.receive image >>= Outcome.resume resolver rest := by
  rw [takes_layers.read_content ih, layered, foldlM_takeIn, bind_assoc]
  refine bind_congr fun image => ?_
  rw [Focus.read_close]
  cases image <;> rfl

/-- A switch takes in its arms. -/
lemma takes_switch :
    Takes (fun draft => .switch draft around) Sense.arm fun draft arm => .ok (draft.add arm) where
  text _ _ := rfl
  element draft sense := by
    simp only [Focus.absorb]
    cases sense.arm <;> rfl

/-- Arms that are added to a draft one after another. -/
lemma SwitchDraft.foldl_add {arms : List Arm} {draft : SwitchDraft} :
    arms.foldl SwitchDraft.add draft =
      ⟨draft.cases ++ arms.filterMap Arm.case?,
        (arms.filterMap Arm.default?).getLast?.or draft.default⟩ := by
  induction arms generalizing draft with
  | nil =>
    show draft = ⟨draft.cases ++ [], draft.default⟩
    rw [List.append_nil]
  | cons arm others ih =>
    rw [List.foldl_cons, ih]
    cases arm with
    | case c => simp [SwitchDraft.add, Arm.case?, Arm.default?]
    | default image =>
      simp [SwitchDraft.add, Arm.default?, List.getLast?_cons]
      cases (others.filterMap Arm.default?).getLast? <;> rfl

/-- A switch is read as the switch of the arms in it. -/
lemma read_switch (ih : ∀ n ∈ content, n.Reads resolver) (rest : List Token) :
    (Focus.switch ⟨[], none⟩ around).read resolver (Node.tokensOf content ++ .close :: rest) =
      switched (meaningsOf resolver content) >>= fun image =>
        around.receive image >>= Outcome.resume resolver rest := by
  rw [takes_switch.read_content ih, foldlM_takeIn_ok, switched, bind_assoc, bind_assoc]
  refine bind_congr fun arms => ?_
  show (Focus.switch (arms.foldl SwitchDraft.add ⟨[], none⟩) around).read resolver _ = _
  rw [SwitchDraft.foldl_add, List.nil_append, Option.or_none, Focus.read_close, Focus.close,
    SwitchDraft.finish]
  cases (arms.filterMap Arm.default?).getLast? with
  | none => rfl
  | some default => exact bind_assoc ..

/-- An animation takes in its frames. -/
lemma takes_animation {tag} :
    Takes (fun frames => .animation ⟨tag, frames⟩ around) Sense.frame
      fun frames frame => .ok (frames ++ [frame]) where
  text _ _ := rfl
  element frames sense := by
    simp only [Focus.absorb]
    cases sense.frame <;> rfl

/-- An animation is read as the animation of the frames in it. -/
lemma read_animation {tag} (ih : ∀ n ∈ content, n.Reads resolver) (rest : List Token) :
    (Focus.animation ⟨tag, []⟩ around).read resolver (Node.tokensOf content ++ .close :: rest) =
      animated tag (meaningsOf resolver content) >>= fun image =>
        around.receive image >>= Outcome.resume resolver rest := by
  rw [takes_animation.read_content ih, foldlM_takeIn_ok, animated, bind_assoc, bind_assoc]
  refine bind_congr fun frames => ?_
  show (Focus.animation ⟨tag, frames.foldl (fun s f => s ++ [f]) []⟩ around).read resolver _ = _
  rw [List.foldl_append_eq_append, List.nil_append, ← List.flatMap_def, List.flatMap_singleton',
    Focus.read_close, Focus.close, AnimationDraft.finish]
  cases frames.isEmpty with
  | true => rfl
  | false => exact bind_assoc ..

/-- Reading an element that describes an image, behind its start tag. -/
lemma read_descriptor (ih : ∀ n ∈ content, n.Reads resolver) (d : Descriptor) (el : Element)
    (rest : List Token) :
    (d.begin resolver el around >>= fun inner =>
        inner.read resolver (Node.tokensOf content ++ .close :: rest)) =
      describe resolver el (meaningsOf resolver content) d >>= fun image =>
        around.receive image >>= Outcome.resume resolver rest := by
  cases d with
  | image =>
    rw [Descriptor.begin, describe, bind_assoc]
    exact bind_congr fun image => read_sprite ih image rest
  | animation => exact read_animation ih rest
  | switch => exact read_switch ih rest
  | layers => exact read_layers ih rest

end

/-! ## Frames -/

/-- Takes in what stands in a frame: the last image, and all text. -/
def takeFrame (s : Option TileImage × String) :
    Meaning → Except LoadError (Option TileImage × String)
  | .text content => .ok (s.1, s.2 ++ content)
  | .element sense => do return (← takeIn Sense.image keepLast s.1 (.element sense), s.2)

/-- In a frame, images and texts are taken in apart. -/
lemma foldlM_takeFrame {ms : List Meaning} {found : Option TileImage} {text : String} :
    ms.foldlM takeFrame (found, text) = do
      return (← ms.foldlM (takeIn Sense.image keepLast) found,
        (ms.filterMap Meaning.text?).foldl (· ++ ·) text) := by
  induction ms generalizing found text with
  | nil => rfl
  | cons m others ih =>
    rw [List.foldlM_cons, List.foldlM_cons]
    cases m with
    | text content => exact ih
    | element sense =>
      show (takeIn Sense.image keepLast found (.element sense) >>= _) >>= _ = _
      rw [bind_assoc, bind_assoc]
      exact bind_congr fun found => ih

/-- A frame is read as the last image in it, or else by its text. -/
lemma read_frame {duration draft} {around : Place g} {content : List Node}
    (ih : ∀ n ∈ content, n.Reads resolver) (rest : List Token) :
    (Focus.holding (.frame duration none "" draft around)).read resolver
        (Node.tokensOf content ++ .close :: rest) =
      frameContent resolver (meaningsOf resolver content) >>= fun image =>
        (Outcome.inside (.animation { draft with
          frames := draft.frames ++ [.lasting duration image] } around)).resume resolver rest := by
  have absorbs : ∀ (s : Option TileImage × String) (m : Meaning),
      (Focus.holding (.frame duration s.1 s.2 draft around)).absorb m = do
        let s ← takeFrame s m
        return .inside (.holding (.frame duration s.1 s.2 draft around)) := by
    intro s m
    cases m with
    | text => rfl
    | element sense =>
      simp only [Focus.absorb, takeFrame, takeIn, Meaning.sense?]
      cases sense.image with
      | none => rfl
      | some image => cases image <;> rfl
  rw [read_content absorbs ih (none, ""), foldlM_takeFrame, foldlM_keepLast, frameContent,
    bind_assoc, bind_assoc]
  refine bind_congr fun found => ?_
  show Focus.read resolver (.holding (.frame duration found (String.join _) draft around)) _ = _
  rw [Focus.read_close]
  exact bind_assoc ..

/-! ## Whole nodes -/

/-- Behind its start tag, an element that has a meaning is read from the inside, and one without is
skipped. A self-closing tag is read like an element that holds nothing. -/
lemma read_behind (focus : Focus g) (name : String) (attributes : List Attribute)
    (content : Option (List Node)) (rest : List Token) :
    focus.start resolver ⟨name, attributes, content.isNone⟩ >>=
        Progress.resume resolver (Node.tokensBehind content ++ rest) =
      (focus.enter resolver ⟨name, attributes, content.isNone⟩ >>= fun
        | some inner => inner.read resolver (Node.tokensOf (content.getD []) ++ .close :: rest)
        | none => focus.read resolver rest) := by
  rw [Focus.start, bind_assoc]
  refine bind_congr fun inner => ?_
  cases content with
  | none =>
    cases inner with
    | none => rfl
    | some inner =>
      show (do return (← inner.close resolver).progress) >>= _ =
        inner.read resolver (.close :: rest)
      rw [Focus.read_close, bind_assoc]
      rfl
  | some content =>
    rw [Node.tokensBehind, List.append_assoc]
    cases inner with
    | none =>
      show Position.read resolver ⟨focus, 1⟩ _ = _
      rw [read_skipped_content]
      exact Position.read_cons
    | some inner => rfl

/-- Where an image is described, the place receives it. -/
lemma absorb_image {place : Place g} {sense : Sense} {image : Except LoadError TileImage}
    (h : sense.image = some image) :
    (Focus.holding place).absorb (.element sense) = image >>= place.receive := by
  cases place with
  | document =>
    simp only [Focus.absorb, h]
    rfl
  | _ => simp only [Focus.absorb, h]

/-- Places of one image keep the last that they receive. -/
lemma takes_held {within : Option TileImage → Place g}
    (text : ∀ found content,
      (Focus.holding (within found)).addText content = .holding (within found))
    (other : ∀ found sense, sense.image = none →
      (Focus.holding (within found)).absorb (.element sense) =
        .ok (.inside (.holding (within found))))
    (receive : ∀ found image,
      (within found).receive image = .ok (.inside (.holding (within (some image))))) :
    Takes (fun found => .holding (within found)) Sense.image keepLast where
  text := text
  element found sense := by
    cases h : sense.image with
    | none => exact other found sense h
    | some image =>
      rw [absorb_image h]
      exact bind_congr fun image => receive found image

/-- A case takes in images and keeps the last. -/
lemma takes_case {condition draft} {around : Place g} :
    Takes (fun found => .holding (.case condition found draft around)) Sense.image keepLast :=
  takes_held (fun _ _ => rfl) (fun _ _ h => by simp only [Focus.absorb, h]) fun _ _ => rfl

/-- A default takes in images and keeps the last. -/
lemma takes_default {draft} {around : Place g} :
    Takes (fun found => .holding (.default found draft around)) Sense.image keepLast :=
  takes_held (fun _ _ => rfl) (fun _ _ h => by simp only [Focus.absorb, h]) fun _ _ => rfl

/-- A tile takes in images and keeps the last. -/
lemma takes_tile {name set} :
    Takes (fun found => .holding (.tile name found set)) Sense.image keepLast :=
  takes_held (fun _ _ => rfl) (fun _ _ h => by simp only [Focus.absorb, h]) fun _ _ => rfl

/-- A set takes in its tiles. -/
lemma takes_tileSet :
    Takes Focus.tileSet Sense.tile fun set tile => .ok (set.insert tile.1 tile.2) where
  text _ _ := rfl
  element set sense := by
    rw [Focus.absorb]
    cases sense.tile <;> rfl

section
variable {content : List Node} (ih : ∀ n ∈ content, n.Reads resolver) (rest : List Token)
include ih

/-- A case is read as a case of the last image in it. -/
lemma read_case {condition draft} {around : Place g} :
    (Focus.holding (.case condition none draft around)).read resolver
        (Node.tokensOf content ++ .close :: rest) =
      heldImage "case" (meaningsOf resolver content) >>= fun image =>
        (Outcome.inside (.switch (draft.add (.case ⟨condition, image⟩)) around)).resume
          resolver rest :=
  takes_case.read_held (fun _ => rfl) rfl ih rest

/-- A default is read as the last image in it. -/
lemma read_default {draft} {around : Place g} :
    (Focus.holding (.default none draft around)).read resolver
        (Node.tokensOf content ++ .close :: rest) =
      heldImage "default" (meaningsOf resolver content) >>= fun image =>
        (Outcome.inside (.switch (draft.add (.default image)) around)).resume resolver rest :=
  takes_default.read_held (fun _ => rfl) rfl ih rest

/-- A tile is read as the last image in it, under its name. -/
lemma read_tile {name set} :
    (Focus.holding (.tile name none set)).read resolver
        (Node.tokensOf content ++ .close :: rest) =
      heldImage "tile" (meaningsOf resolver content) >>= fun image =>
        (Outcome.inside (.tileSet (set.insert name image))).resume resolver rest :=
  takes_tile.read_held (fun _ => rfl) rfl ih rest

/-- A set is read as the set of the tiles in it. -/
lemma read_tileSet :
    (Focus.tileSet .empty).read resolver (Node.tokensOf content ++ .close :: rest) =
      tileSet (meaningsOf resolver content) >>= fun set =>
        (Outcome.done set : Outcome .tileSet).resume resolver rest := by
  rw [takes_tileSet.read_content ih, foldlM_takeIn_ok, tileSet, bind_assoc, bind_assoc]
  refine bind_congr fun tiles => ?_
  rw [pure_bind, pure_bind, Focus.read_close]
  rfl

end

/-- What is read from the start tag of an element to its end is what the element means. -/
lemma read_sense {content : List Node} (ih : ∀ n ∈ content, n.Reads resolver) (focus : Focus g)
    (el : Element) (rest : List Token) :
    (focus.enter resolver el >>= fun
        | some inner => inner.read resolver (Node.tokensOf content ++ .close :: rest)
        | none => focus.read resolver rest) =
      focus.absorb (.element (.of resolver el (meaningsOf resolver content))) >>=
        Outcome.resume resolver rest := by
  cases focus with
  | holding place =>
    show place.enter resolver el >>= _ = _
    unfold Place.enter
    cases h : Descriptor.ofTag? el.name with
    | none =>
      have image : (Sense.of resolver el (meaningsOf resolver content)).image = none := by
        rw [Sense.of, h]
        rfl
      cases place <;> simp only [Focus.absorb, image] <;> rfl
    | some d =>
      have image : (Sense.of resolver el (meaningsOf resolver content)).image =
          some (describe resolver el (meaningsOf resolver content) d) := by
        rw [Sense.of, h]
        rfl
      rw [absorb_image image, bind_assoc, bind_assoc]
      exact read_descriptor ih d el rest
  | sprite image around => rfl
  | switch draft around =>
    rw [Focus.enter, Focus.absorb, Sense.of]
    dsimp only
    split
    case isTrue =>
      simp only [bind_assoc]
      exact bind_congr fun condition => read_case ih rest
    case isFalse =>
      split
      case isTrue =>
        simp only [bind_assoc]
        exact read_default ih rest
      case isFalse => rfl
  | animation draft around =>
    rw [Focus.enter, Focus.absorb, Sense.of]
    dsimp only
    split
    case isTrue =>
      simp only [bind_assoc]
      exact bind_congr fun duration => read_frame ih rest
    case isFalse => rfl
  | prologue =>
    rw [Focus.absorb, bind_assoc]
    exact read_tileSet ih rest
  | tileSet set =>
    rw [Focus.enter, Focus.absorb, Sense.of]
    dsimp only
    split
    case isTrue =>
      cases el.value? "name" with
      | none => rfl
      | some name =>
        simp only [bind_assoc]
        exact read_tile ih rest
    case isFalse => rfl

/-- What is read behind the start tag of an element is what the element means. -/
lemma read_meaning {content : Option (List Node)} (ih : ∀ n ∈ content.getD [], n.Reads resolver)
    (focus : Focus g) (name : String) (attributes : List Attribute) (rest : List Token) :
    focus.start resolver ⟨name, attributes, content.isNone⟩ >>=
        Progress.resume resolver (Node.tokensBehind content ++ rest) =
      focus.absorb ((Node.element name attributes content).meaning resolver) >>=
        Outcome.resume resolver rest := by
  rw [read_behind, read_sense ih]
  cases content <;> rfl

/-- Every node is read as what it means, whatever it stands in and whatever follows it. -/
lemma Node.reads (n : Node) : n.Reads resolver := by
  induction n using Node.induction with
  | onText content => exact fun focus rest => Focus.read_text
  | onElement name attributes content ih =>
    intro g focus rest
    rw [Node.tokens, List.cons_append, Focus.read, Position.read_cons]
    exact read_meaning ih focus name attributes rest

end

/-- Behind the start tag of an element, reading goes on to the end of that element and no further,
and what it has read is what the element means. In an open element, the meaning is taken in there.
The root of a document gives the image or the tile set that it means, with the tokens behind it. -/
theorem read_element (resolver : Resolver) (name : String) (attributes : List Attribute)
    (content : Option (List Node)) (rest : List Token) :
    let start : Element := ⟨name, attributes, content.isNone⟩
    let sense := Sense.of resolver start (meaningsIn resolver content)
    (∀ {g : Goal} (focus : Focus g),
      focus.start resolver start >>= Progress.resume resolver (Node.tokensBehind content ++ rest) =
        focus.absorb (.element sense) >>= Outcome.resume resolver rest) ∧
    ((Focus.holding .document).start resolver start >>=
        Progress.resume resolver (Node.tokensBehind content ++ rest) =
      do return (← sense.image.getD (.error (.unknownTag name)), rest)) ∧
    (Focus.prologue.start resolver start >>=
        Progress.resume resolver (Node.tokensBehind content ++ rest) =
      do return (← sense.tiles, rest)) := by
  intro start sense
  have taken : ∀ {g : Goal} (focus : Focus g),
      focus.start resolver start >>= Progress.resume resolver (Node.tokensBehind content ++ rest) =
        focus.absorb (.element sense) >>= Outcome.resume resolver rest :=
    fun focus => read_meaning (fun n _ => n.reads) focus name attributes rest
  refine ⟨taken, ?_, ?_⟩
  · rw [taken, Focus.absorb]
    cases sense.image with
    | none => rfl
    | some image => exact bind_assoc ..
  · rw [taken, Focus.absorb]
    exact bind_assoc ..

/-- What stands in an element without meaning is not part of the image, and what stands behind the
image is not read. -/
example :
    let sheet : TileImage := .source (.clear 0 0) 16
    let image : Node := .element "image" [("at", "1,2")] none
    let document : Node := .element "layered-image" []
      (some [.element "note" [] (some [.text "to do", image]), image])
    Position.read (Resolver.ofTable [("tiles", sheet)]) ⟨.holding .document, 0⟩
        (document.tokens ++ [.close]) =
      .ok (.sprite ⟨1, 2, 0, 0⟩ sheet, [.close]) := by rfl

end Cityscape.Markup
