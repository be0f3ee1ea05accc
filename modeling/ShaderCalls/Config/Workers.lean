/-!
# Workers

How many workers a share of the processor cores makes.  Nothing that a discovery gives depends on
the number of workers, so no other module asks for it.
-/

namespace ShaderCalls

/-- The share that a ratio stands for: it is kept between zero and one, and a ratio that is no
finite number stands for all cores. -/
def effectiveRatio (ratio : Float) : Float :=
  if !ratio.isFinite then 1.0
  else if ratio < 0.0 then 0.0
  else if 1.0 < ratio then 1.0
  else ratio

/-- The number of workers for a share of the cores, rounded down, but at least one. -/
def workerCount (cores : UInt64) (ratio : Float) : UInt64 :=
  max 1 (cores.toFloat * effectiveRatio ratio).floor.toUInt64

end ShaderCalls
