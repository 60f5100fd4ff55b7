import Gatehouse.Log.Format
import Gatehouse.Log.Level

/-!
# Log settings
-/
namespace Gatehouse

structure LogSettings where
  level : Level
  format : LogFormat
  colors : Bool
  toFile : Bool
  folder : String
  app : String
  maxFileSize : Nat
  maxFileAgeDays : Nat

/-- The settings of a logger that was told nothing. -/
def LogSettings.usual : LogSettings where
  level := .info
  format := .pretty
  colors := true
  toFile := false
  folder := "logs"
  app := "cms-gateway"
  maxFileSize := 20 * 1024 * 1024
  maxFileAgeDays := 14

end Gatehouse
