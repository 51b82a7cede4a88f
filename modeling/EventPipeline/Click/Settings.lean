namespace EventPipeline

/-!
# Click thresholds

* `ClickSettings` — how close in time and place two presses must be to make a double click.
-/

/-- How close two presses must be to make a double click. -/
@[ext] structure ClickSettings where
  /-- The time within which the second press must come, in milliseconds. -/
  doubleClickTime : UInt32 := 250
  /-- The greatest distance of the presses on each axis, in pixels. -/
  doubleClickDistance : UInt32 := 5
deriving DecidableEq, Repr

namespace ClickSettings

/-- The key of the time threshold in a settings file. -/
def timeKey : String := "double_click_time"

/-- The key of the distance threshold in a settings file. -/
def distanceKey : String := "double_click_distance"

/-- The settings as they stand in the log. -/
def text (s : ClickSettings) : String :=
  s!"ClickSettings \x7b {timeKey}: {s.doubleClickTime}, " ++
    s!"{distanceKey}: {s.doubleClickDistance} \x7d"

end ClickSettings

end EventPipeline
