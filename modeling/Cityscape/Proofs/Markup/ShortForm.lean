import Cityscape.Proofs.Markup.CellSize
import Cityscape.Proofs.Markup.Reading
import Cityscape.Proofs.Text.Spelling
import Mathlib.Data.List.Forall2

/-!
# The short form of a frame and its elements

Images that lie one over another can be written as a text, `sheet@x,y` for each of them with `+` in
between, or as an element that holds an image element for each. A `Part` is what both say about one
image, and `Part.Written` and `Part.Marked` are the two ways to say it.

The main statement, `frameSpec_eq_layers`, is that both are read as the same: the sprites of the parts,
each layered over those before it, or the error of the first part for which there is no sheet. Each
reading is a fold over the parts, with a check at every step. With sheets the checks never fail, since
all sprites are of one size, so both folds are the one that does without them (`foldlM_overlaid`).
-/

namespace Cityscape

open TileImage (Sized)

namespace Markup

/-- An image in a stack: the name of a sheet, which is empty for the default sheet, and the place of a
cell on it. The name can stand in a short form as it is. -/
structure Part where
  name : String
  x : Int
  y : Int
  bare : Text.Bare name.toList
  noAt : '@' ∉ name.toList
  noPlus : '+' ∉ name.toList
  holds_x : Bounds.int32.Holds x
  holds_y : Bounds.int32.Holds y

namespace Part

/-- The sheet that a part is on. -/
def sheet (s : Sheets) (p : Part) : Except LoadError TileImage :=
  if p.name = "" then s.defaultImage else s.namedImage p.name

/-- The sprite that a part stands for. -/
def sprite (s : Sheets) (p : Part) : Except LoadError TileImage := do
  return .sprite ⟨p.x, p.y, 0, 0⟩ (← p.sheet s)

/-- A part in short form: `sheet@x,y`, with blanks around the name and around the integers. -/
def Written (p : Part) (text : List Char) : Prop :=
  ∃ name x y, Text.Padded p.name.toList name ∧ Text.Padded (toString p.x).toList x ∧
    Text.Padded (toString p.y).toList y ∧ text = name ++ '@' :: (x ++ ',' :: y)

/-- A start tag that says what a part is. The default sheet is not named, and nothing is said about
overlaps. -/
structure Tagged (p : Part) (el : Element) : Prop where
  name : el.name = "image"
  src : el.value? "src" = if p.name = "" then none else some p.name
  place : el.value? "at" = some (toString p.x ++ "," ++ toString p.y)
  north : el.value? "overlap-north" = none
  east : el.value? "overlap-east" = none

/-- A part as an element, whatever stands in it. -/
def Marked (p : Part) : Node → Prop
  | .text _ => False
  | .element name attributes content => p.Tagged ⟨name, attributes, content.isNone⟩

variable {s : Sheets} {p : Part}

/-! ## Parts in short form -/

section
variable {text : List Char}

/-- A part is not taken for one that is left out, since there is an `@` in it. -/
lemma Written.visible (h : p.Written text) : (!text.all Text.isBlank) = true := by
  obtain ⟨name, x, y, _, _, _, rfl⟩ := h
  have mem : '@' ∈ name ++ '@' :: (x ++ ',' :: y) := List.mem_append_right name List.mem_cons_self
  rw [Bool.not_eq_true', List.all_eq_false]
  exact ⟨'@', mem, nofun⟩

/-- There is no plus sign in a part, so parts are told apart by the plus signs. -/
lemma Written.noPlus (h : p.Written text) : '+' ∉ text := by
  obtain ⟨name, x, y, pn, px, py, rfl⟩ := h
  have number {v : Int} {text : List Char} (h : Text.Padded (toString v).toList text) :
      '+' ∉ text := h.not_mem rfl (Text.not_mem_toString (by decide) rfl)
  simp only [List.mem_append, List.mem_cons, not_or]
  exact ⟨pn.not_mem rfl p.noPlus, by decide, number px, by decide, number py⟩

/-- The sheet of a part is found by its name. -/
lemma referredImage_name : s.referredImage p.name.toList = p.sheet s := by
  have unnamed : p.name.toList.isEmpty = true ↔ p.name = "" := by
    rw [List.isEmpty_iff, String.toList_eq_nil_iff]
  rw [Sheets.referredImage, String.ofList_toList, sheet, if_congr unnamed rfl rfl]

/-- A part in short form is read as its sprite. -/
lemma Written.framePart {spec : String} (h : p.Written text) :
    s.framePart spec text = p.sprite s := by
  obtain ⟨name, x, y, pn, px, py, rfl⟩ := h
  have noAt : '@' ∉ name := pn.not_mem rfl p.noAt
  rw [Sheets.framePart, Text.cutFirst_append noAt]
  dsimp only
  rw [Text.pair?_padded p.holds_x p.holds_y px py, Text.trimChars_padded p.bare pn]
  dsimp only
  rw [referredImage_name]
  rfl

end

/-! ## Parts as elements -/

/-- The start tag of a part is read as its sprite. -/
lemma Tagged.sprite {el : Element} (h : p.Tagged el) : el.sprite s.resolver = p.sprite s := by
  have pair : Text.pair? Bounds.int32 (toString p.x ++ "," ++ toString p.y).toList =
      some (p.x, p.y) := by
    rw [String.toList_append, String.toList_append, List.append_assoc]
    exact Text.pair?_padded p.holds_x p.holds_y (.refl _) (.refl _)
  have shift : el.shift = .ok (p.x, p.y) := by
    rw [Element.shift, h.place]
    dsimp only
    rw [pair]
  have natural {key : String} (absent : el.value? key = none) :
      el.natural Bounds.uint32 key 0 = .ok 0 := by
    rw [Element.natural, absent]
  rw [Element.sprite, h.src, shift, natural h.north, natural h.east, Part.sprite, sheet]
  by_cases unnamed : p.name = ""
  · rw [if_pos unnamed, if_pos unnamed]
    rfl
  · rw [if_neg unnamed, if_neg unnamed]
    rfl

/-- The element of a part means its sprite. -/
lemma Marked.image {n : Node} (h : p.Marked n) :
    (n.meaning s.resolver).sense? Sense.image = some (p.sprite s) := by
  cases n with
  | text => exact h.elim
  | element name attributes content =>
    have tagged : p.Tagged ⟨name, attributes, content.isNone⟩ := h
    obtain rfl : name = "image" := tagged.name
    rw [← tagged.sprite]
    rfl

/-- A part fails only for want of a sheet, and the sprites of parts have one size. -/
lemma ensures_sprite :
    Ensures Sheets.Missing (Sized · (.square s.cellWidth)) (p.sprite s) := by
  rw [sprite, ← referredImage_name]
  apply Sheets.ensures_referredImage.bind
  rintro _ ⟨pixels, rfl⟩
  exact Sheets.sized_sprite _ pixels

end Part

/-! ## Layers of parts -/

/-- An image over those before it, if there are any. -/
def overlaid : Option TileImage → TileImage → Option TileImage
  | none, above => some above
  | some below, above => some (.layer below above)

/-- An image over those before it, with the check that the short form of a frame makes. -/
def layPart (spec : String) (below : Option TileImage) (above : TileImage) :
    Except LoadError (Option TileImage) :=
  match below with
  | none => return some above
  | some below =>
    match TileImage.layer? below above with
    | .ok image => return some image
    | .error cause => throw (.invalidFrameSpec spec (.layers cause))

/-- Images laid over a bottom one after another are its layers. -/
lemma foldl_overlaid (bottom : TileImage) (images : List TileImage) :
    images.foldl overlaid (some bottom) = some (images.foldl .layer bottom) := by
  induction images generalizing bottom with
  | nil => rfl
  | cons above images ih => exact ih (.layer bottom above)

section
variable {size : Image.Size} {below : Option TileImage} {above : TileImage}

/-- Images of one size laid over one another have that size. -/
lemma sized_overlaid (hb : ∀ t ∈ below, Sized t size) (ha : Sized above size) :
    ∀ t ∈ overlaid below above, Sized t size := by
  cases below with
  | none => exact forall_mem_some ha
  | some below => exact forall_mem_some (.layer (hb below rfl) ha)

/-- The check of the short form does not fail on images of one size. -/
lemma layPart_eq (spec : String) (hb : ∀ t ∈ below, Sized t size) (ha : Sized above size) :
    layPart spec below above = .ok (overlaid below above) := by
  cases below with
  | none => rfl
  | some below =>
    rw [layPart, (Sized.layer (hb below rfl) ha).layer?_eq]
    rfl

/-- The check of a layered image does not fail on images of one size. -/
lemma stack_eq (hb : ∀ t ∈ below, Sized t size) (ha : Sized above size) :
    stack below above = .ok (overlaid below above) := by
  cases below with
  | none => rfl
  | some below =>
    rw [stack, (Sized.layer (hb below rfl) ha).layer?_eq]
    rfl

/-- To layer images of one size with a check that does not fail on them comes to the same as without
it. -/
lemma foldlM_overlaid {add : Option TileImage → TileImage → Except LoadError (Option TileImage)}
    (adds : ∀ {below above}, (∀ t ∈ below, Sized t size) → Sized above size →
      add below above = .ok (overlaid below above))
    {results : List (Except LoadError TileImage)}
    (sized : ∀ result ∈ results, ∀ image, result = .ok image → Sized image size)
    (hb : ∀ t ∈ below, Sized t size) :
    results.foldlM (fun below result => do add below (← result)) below =
      do return (← results.mapM id).foldl overlaid below := by
  rw [← foldlM_results]
  induction results generalizing below with
  | nil => rfl
  | cons result others ih =>
    obtain ⟨first, later⟩ := List.forall_mem_cons.1 sized
    rw [List.foldlM_cons, List.foldlM_cons]
    cases result with
    | error => rfl
    | ok above =>
      have ha : Sized above size := first above rfl
      show add below above >>= _ = others.foldlM _ (overlaid below above)
      rw [adds hb ha, ← ih later (sized_overlaid hb ha)]
      rfl

end

section
variable {s : Sheets} {parts : List Part} {texts : List (List Char)} {nodes : List Node}

/-- Each of the texts is the short form of some part. -/
lemma exists_written (written : List.Forall₂ Part.Written parts texts) :
    ∀ text ∈ texts, ∃ p : Part, p.Written text := by
  induction written with
  | nil => exact nofun
  | cons h _ ih => exact List.forall_mem_cons.2 ⟨⟨_, h⟩, ih⟩

/-- Parts in short form are read as their sprites, one by one. -/
lemma map_framePart {spec : String} (written : List.Forall₂ Part.Written parts texts) :
    texts.map (s.framePart spec) = parts.map (Part.sprite s) := by
  induction written with
  | nil => rfl
  | cons h _ ih => rw [List.map_cons, List.map_cons, h.framePart, ih]

/-- Elements of parts describe the sprites, one by one. -/
lemma filterMap_image (marked : List.Forall₂ Part.Marked parts nodes) :
    (meaningsOf s.resolver nodes).filterMap (Meaning.sense? Sense.image) =
      parts.map (Part.sprite s) := by
  induction marked with
  | nil => rfl
  | cons h _ ih => rw [meaningsOf, List.filterMap_cons, h.image, List.map_cons, ih]

end

/-! ## Both readings -/

section
variable {s : Sheets} {first : Part} {others : List Part}

/-- The sprites of parts, each layered over those before it. -/
def stacked (s : Sheets) (first : Part) (others : List Part) : Except LoadError TileImage := do
  let bottom ← first.sprite s
  let images ← others.mapM (Part.sprite s)
  return images.foldl .layer bottom

/-- With sheets, parts are layered with a check as without it. -/
lemma foldlM_sprites {add : Option TileImage → TileImage → Except LoadError (Option TileImage)}
    (adds : ∀ {below above}, (∀ t ∈ below, Sized t (.square s.cellWidth)) →
      Sized above (.square s.cellWidth) → add below above = .ok (overlaid below above)) :
    ((first :: others).map (Part.sprite s)).foldlM (fun below result => do add below (← result))
      none = (stacked s first others).map some := by
  have sized : ∀ result ∈ (first :: others).map (Part.sprite s), ∀ image, result = .ok image →
      Sized image (.square s.cellWidth) := by
    intro result mem image e
    obtain ⟨p, _, rfl⟩ := List.mem_map.1 mem
    exact Part.ensures_sprite.of_ok e
  have start : ∀ t ∈ (none : Option TileImage), Sized t (.square s.cellWidth) := nofun
  rw [foldlM_overlaid adds sized start, List.mapM_map, stacked, List.mapM_cons]
  show (first.sprite s >>= _) >>= _ = _
  cases first.sprite s with
  | error => rfl
  | ok bottom =>
    show (others.mapM (Part.sprite s) >>= _) >>= _ = _
    cases others.mapM (Part.sprite s) with
    | error => rfl
    | ok images => exact congrArg Except.ok (foldl_overlaid bottom images)

/-- A short form of parts is read as their stack. -/
lemma frameSpec_eq {texts : List (List Char)} {spec : String}
    (spells : spec.toList = ['+'].intercalate texts)
    (written : List.Forall₂ Part.Written (first :: others) texts) :
    s.frameSpec spec = stacked s first others := by
  have nonempty : texts ≠ [] := by
    rintro rfl
    exact nomatch written
  have noPlus : ∀ text ∈ texts, '+' ∉ text := by
    intro text mem
    obtain ⟨p, h⟩ := exists_written written text mem
    exact h.noPlus
  have visible : texts.filter (fun text => !text.all Text.isBlank) = texts := by
    apply List.filter_eq_self.2
    intro text mem
    obtain ⟨p, h⟩ := exists_written written text mem
    exact h.visible
  have parts : texts.foldlM (s.addPart spec) none = (stacked s first others).map some := by
    rw [← foldlM_sprites (layPart_eq spec), ← map_framePart written, List.foldlM_map]
    rfl
  rw [Sheets.frameSpec, spells, Text.fields_intercalate noPlus nonempty]
  show (texts.filter (fun text => !text.all Text.isBlank)).foldlM _ none >>= _ = _
  rw [visible, parts]
  cases stacked s first others <;> rfl

/-- A layered image of parts is read as their stack. -/
lemma layered_eq {nodes : List Node}
    (marked : List.Forall₂ Part.Marked (first :: others) nodes) :
    layered (meaningsOf s.resolver nodes) = stacked s first others := by
  rw [layered, filterMap_image marked]
  show ((first :: others).map (Part.sprite s)).foldlM _ none >>= _ = _
  rw [foldlM_sprites stack_eq]
  cases stacked s first others <;> rfl

/-- Parts fail only for want of a sheet. -/
lemma ensures_stacked : Ensures Sheets.Missing (fun _ => True) (stacked s first others) := by
  apply Part.ensures_sprite.bind
  intro bottom _
  apply (Ensures.mapM fun p _ => Part.ensures_sprite (p := p)).bind
  exact fun _ _ => trivial

end

/-- The short form of some parts, with any blanks around names and integers, and an element of layers
that holds an image element for each of them, are read alike, wherever the element may stand: as the
sprites of the parts, each layered over those before it, or as the error of the first part that has
one, which can only be that there is no such sheet. -/
theorem frameSpec_eq_layers (s : Sheets) (first : Part) (others : List Part)
    (texts : List (List Char)) (spec : String) (attributes : List Attribute) (nodes : List Node)
    (written : List.Forall₂ Part.Written (first :: others) texts)
    (spells : spec.toList = ['+'].intercalate texts)
    (marked : List.Forall₂ Part.Marked (first :: others) nodes) :
    let layers := Node.element "layered-image" attributes (some nodes)
    s.frameSpec spec = stacked s first others ∧
    (∀ rest, readImage s.resolver (layers.tokens ++ rest) = s.frameSpec spec) ∧
    (∀ {g : Goal} (place : Place g) (rest : List Token),
      (Focus.holding place).read s.resolver (layers.tokens ++ rest) =
        s.frameSpec spec >>= fun image =>
          place.receive image >>= Outcome.resume s.resolver rest) ∧
    ∀ e, s.frameSpec spec = .error e → e = .noDefaultImage ∨ ∃ name, e = .imageNotFound name := by
  intro layers
  have short := frameSpec_eq (s := s) spells written
  have read {g : Goal} (place : Place g) (rest : List Token) :
      (Focus.holding place).read s.resolver (layers.tokens ++ rest) =
        s.frameSpec spec >>= fun image =>
          place.receive image >>= Outcome.resume s.resolver rest := by
    have image : (Sense.of s.resolver ⟨"layered-image", attributes, false⟩
        (meaningsOf s.resolver nodes)).image = some (s.frameSpec spec) := by
      rw [short, ← layered_eq marked]
      rfl
    rw [layers.reads (.holding place) rest]
    show (Focus.holding place).absorb (.element (.of s.resolver ⟨"layered-image", attributes, false⟩
      (meaningsOf s.resolver nodes))) >>= _ = _
    rw [absorb_image image]
    exact bind_assoc ..
  refine ⟨short, ?_, read, ?_⟩
  · intro rest
    show ((Focus.holding .document).read s.resolver (layers.tokens ++ rest)).map _ = _
    rw [read]
    cases s.frameSpec spec <;> rfl
  · intro e failed
    rw [short] at failed
    exact ensures_stacked.of_error failed

namespace Rails

/-- Sheets with a default one. -/
def sheets : Sheets := (Sheets.ofBasis 16).addDefault "tiles" (.clear 0 0)

/-- The name of the sheet in the example has no blanks around it. -/
lemma bare : Text.Bare "tiles".toList where
  head c mem := by
    obtain rfl : 't' = c := Option.some.inj mem
    rfl
  last c mem := by
    obtain rfl : 's' = c := Option.some.inj mem
    rfl

/-- The rails, on a sheet that is named. -/
def rails : Part where
  name := "tiles"
  x := 1
  y := -2147483648
  bare := bare
  noAt := by decide
  noPlus := by decide
  holds_x := by decide
  holds_y := by decide

/-- What is over the rails, on the default sheet. -/
def wire : Part where
  name := ""
  x := 0
  y := 32
  bare := ⟨nofun, nofun⟩
  noAt := nofun
  noPlus := nofun
  holds_x := by decide
  holds_y := by decide

/-- A short form with blanks. -/
def spec : String := " tiles@1 , -2147483648+@0,32"

/-- The short forms of the two parts. -/
def texts : List (List Char) := [" tiles@1 , -2147483648".toList, "@0,32".toList]

/-- The elements of the two parts, the first one with a text in it. -/
def nodes : List Node :=
  [.element "image" [("at", "1,-2147483648"), ("src", "tiles")] (some [.text "rails"]),
    .element "image" [("at", "0,32")] none]

/-- The texts of the example are the short forms of its parts. -/
lemma written : List.Forall₂ Part.Written [rails, wire] texts := by
  have blank : ∀ c ∈ [' '], Text.isBlank c := List.forall_mem_singleton.2 rfl
  apply List.Forall₂.cons
  · refine ⟨" tiles".toList, "1 ".toList, " -2147483648".toList, ?_, ?_, ?_, by decide⟩
    · exact ⟨[' '], [], blank, nofun, by decide⟩
    · exact ⟨[], [' '], nofun, blank, by decide⟩
    · exact ⟨[' '], [], blank, nofun, by decide⟩
  · exact .cons ⟨[], "0".toList, "32".toList, .refl _, .refl _, .refl _, by decide⟩ .nil

/-- The elements of the example are those of its parts. -/
lemma marked : List.Forall₂ Part.Marked [rails, wire] nodes := by
  apply List.Forall₂.cons
  · exact ⟨rfl, by decide, by decide, by decide, by decide⟩
  · exact .cons ⟨rfl, by decide, by decide, by decide, by decide⟩ .nil

end Rails

/-- The rails and the wire over them are read as two layers in either form, and as a missing sheet where
there are no sheets. -/
theorem frameSpec_eq_layers_rails :
    let layers := Node.element "layered-image" [] (some Rails.nodes)
    List.Forall₂ Part.Written [Rails.rails, Rails.wire] Rails.texts ∧
    List.Forall₂ Part.Marked [Rails.rails, Rails.wire] Rails.nodes ∧
    readImage Rails.sheets.resolver (layers.tokens ++ []) = Rails.sheets.frameSpec Rails.spec ∧
    Rails.sheets.frameSpec Rails.spec =
      .ok (.layer (.sprite ⟨1, -2147483648, 0, 0⟩ (.source (.clear 0 0) 16))
        (.sprite ⟨0, 32, 0, 0⟩ (.source (.clear 0 0) 16))) ∧
    (Sheets.ofBasis 16).frameSpec Rails.spec = .error (.imageNotFound "tiles") := by
  have agree (s : Sheets) := frameSpec_eq_layers s Rails.rails [Rails.wire] Rails.texts Rails.spec
    [] Rails.nodes Rails.written (by decide) Rails.marked
  obtain ⟨stacked, read, _, _⟩ := agree Rails.sheets
  obtain ⟨missing, _, _, _⟩ := agree (Sheets.ofBasis 16)
  exact ⟨Rails.written, Rails.marked, read [], stacked, missing⟩

end Markup

end Cityscape
