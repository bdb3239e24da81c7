import TickArena.Ability.Weave

/-!
# Acting

A component acts by its one ability.
-/

namespace TickArena

namespace Stance

/-- Whether the ability of the component takes a draw from the stream. -/
def draws (stance : Stance) : Bool :=
  match stance.component.ability with
  | .strike behavior => (stance.critChance? behavior).isSome
  | .weave _ => false

/-- What the ability of the component does; the draw is used only if it takes one. -/
def act (stance : Stance) (draw : Float) : Outcome :=
  match stance.component.ability with
  | .strike behavior => .strike (stance.strike behavior draw)
  | .weave behavior => .weave (stance.weave behavior)

end Stance

end TickArena
