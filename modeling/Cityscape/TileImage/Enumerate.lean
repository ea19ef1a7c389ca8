import Cityscape.LazySeq
import Cityscape.TileImage.Selection

/-!
# Enumerating variants

All trees that a tree can be realized to, each with the condition under which it is. The conditions
of one enumeration exclude one another and leave no context out. The sequence is lazy, since its
length is the product of the numbers of variants along a tree.
-/

namespace Cityscape.TileImage

/-- The variants that a case leads to, under its condition. -/
def guarded (c : Case (LazySeq (Case TileImage))) : LazySeq (Case TileImage) :=
  c.image.map fun r => ⟨c.condition.conj r.condition, r.image⟩

/-- The variants of cases, one case after another. -/
def nested (cases : List (Case (LazySeq (Case TileImage)))) : LazySeq (Case TileImage) :=
  .flatten (cases.map fun c _ => guarded c)

/-- The variants of a tree. -/
def variants : TileImage → LazySeq (Case TileImage) :=
  fold
    { source := fun pixels basis => .once ⟨.always, .source pixels basis⟩
      scaled := fun pixels basis target => .once ⟨.always, .scaled pixels basis target⟩
      sprite := fun window _ child => child.map (Case.map (.sprite window))
      layer := fun below above =>
        .product (fun b a => ⟨b.condition.conj a.condition, .layer b.image a.image⟩)
          below (fun _ => above)
      switch := fun cases => nested (Case.exclusive .always cases)
      animation := fun frames => nested (Frame.windows frames) }

end Cityscape.TileImage
