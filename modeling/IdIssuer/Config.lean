import IdIssuer.Decimal.Layout

/-!
# The low-water ratio

A buffer asks for its next segment as soon as no more than a fraction of the step is left of the
one it serves. `Config.withRatio` accepts the fractions from zero to one; `Config.threshold` turns
the fraction into a number of ids.
-/

namespace IdIssuer

/-- How a buffer is run. -/
structure Config where
  /-- The fraction of the step at which the next segment is reserved. -/
  ratio : Float

/-- Why a configuration is refused. -/
inductive ConfigError where
  /-- The ratio is not a number from zero to one. -/
  | ratioOutOfRange (ratio : Float)

namespace ConfigError

/-- The text of an error. -/
def message : ConfigError → String
  | ratioOutOfRange ratio =>
    s!"low-water ratio must be within [0.0, 1.0], got {Decimal.Layout.plain.text ratio}"

end ConfigError

namespace Config

/-- A fifth of the step. -/
def default : Config := ⟨0.2⟩

/-- The ratio is a number from zero to one. -/
def admits (ratio : Float) : Bool := ratio.isFinite && 0.0 ≤ ratio && ratio ≤ 1.0

/-- Changes the ratio to one from zero to one. -/
def withRatio (config : Config) (ratio : Float) : Except ConfigError Config :=
  if admits ratio then .ok { config with ratio } else .error (.ratioOutOfRange ratio)

/-- Changes the ratio to each of a list in turn, up to the first that is refused. -/
def withRatios (config : Config) (ratios : List Float) : Except ConfigError Config :=
  ratios.foldlM withRatio config

/-- The configuration with a given ratio, or the default one. -/
def ofRatio : Option Float → Except ConfigError Config
  | none => .ok default
  | some ratio => default.withRatio ratio

/-- The number of ids at or below which the next segment of a given step is reserved: the product
of step and ratio, cut to a whole number. -/
def threshold (config : Config) (step : UInt64) : UInt64 := (step.toFloat * config.ratio).toUInt64

/-- The ratio equals the default one as a number. -/
def isDefault (config : Config) : Bool := config.ratio == default.ratio

/-- The configuration as a diagnostic shows it. -/
def describe (config : Config) : String :=
  s!"BufferConfig \x7b low_water_ratio: {Decimal.Layout.diagnostic.text config.ratio} \x7d"

end Config

end IdIssuer
