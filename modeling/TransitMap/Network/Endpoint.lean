import TransitMap.Direction
import TransitMap.Network.Alignment

namespace TransitMap

inductive EndpointAxis where
  | horizontal
  | vertical
  | rising
  | falling
  deriving DecidableEq, Repr

namespace EndpointAxis

def directions : EndpointAxis → Direction × Direction
  | horizontal => (.left, .right)
  | vertical => (.up, .down)
  | rising => (.downLeft, .upRight)
  | falling => (.upLeft, .downRight)

def acceptsHalf (axis : EndpointAxis) (half : Direction) : Bool :=
  half == axis.directions.1 || half == axis.directions.2

def ofKeyword? : String → Option EndpointAxis
  | "horizontal" => some horizontal
  | "vertical" => some vertical
  | "up-right" | "down-left" => some rising
  | "down-right" | "up-left" => some falling
  | _ => none

end EndpointAxis

structure Endpoint where
  station : StationId
  axis : EndpointAxis
  /-- The only half of the bar that is drawn, if not both are. -/
  half : Option Direction
  sourceLine : Nat
  deriving DecidableEq, Repr

end TransitMap
