import Dossier.Fault
import Dossier.Text.Inspect

/-! Settings that every instance of a lineage shares: how path segments are separated, how a query
key says that operators follow, and how many items a page holds. -/

namespace Dossier

/-- Settings as they are put together, before they are checked. -/
structure Settings.Draft where
  separator : String := "."
  marker : String := "$$"
  pageSize : UInt64 := 20
  deriving DecidableEq, Inhabited

/-- Settings that passed the checks. -/
structure Settings where
  separator : String := "."
  marker : String := "$$"
  pageSize : UInt64 := 20
  separator_ne : separator ≠ "" := by decide
  marker_ne : marker ≠ "" := by decide
  separator_ne_marker : separator ≠ marker := by decide
  pageSize_ne : pageSize ≠ 0 := by decide
  deriving DecidableEq

namespace Settings

/-- The settings that hold where none are given. -/
def standard : Settings := {}

instance : Inhabited Settings := ⟨standard⟩

/-- Checks a draft; the first rule it breaks is the failure. -/
def Draft.build (d : Draft) : Except Fault Settings :=
  if hs : d.separator = "" then .error .emptySeparator
  else if hm : d.marker = "" then .error .emptyMarker
  else if hd : d.separator = d.marker then .error .markerIsSeparator
  else if hp : d.pageSize = 0 then .error .zeroPageSize
  else .ok ⟨d.separator, d.marker, d.pageSize, hs, hm, hd, hp⟩

/-- The text that shows the three settings under a name. -/
def shown (name separator marker : String) (pageSize : UInt64) : String :=
  Inspect.record name [("field_separator", Inspect.quoted separator),
    ("operator_marker", Inspect.quoted marker), ("per_page", toString pageSize.toNat)]

def Draft.inspect (d : Draft) : String := shown "ConfigBuilder" d.separator d.marker d.pageSize

def inspect (s : Settings) : String := shown "EloquentConfig" s.separator s.marker s.pageSize

end Settings

end Dossier
