import MeshConsole.Decimal.Reader
import MeshConsole.Radio

/-!
# Settings

The console is set up by variables of its environment. A variable that is not set has a default, and
so has a number that cannot be read.
-/

namespace MeshConsole

/-- The settings of the console. -/
structure Settings where
  nodeUrl : String
  bindAddress : String
  refreshSchedule : String
  thresholds : Thresholds
  probeSeconds : Nat
deriving Repr, DecidableEq

namespace Settings

/-- The seconds that a probe may take unless others are set. -/
def standardProbeSeconds : Nat := 30

/-- The most seconds that can be set: as many as a word of 64 bits holds. -/
def mostSeconds : Nat := 0xFFFFFFFFFFFFFFFF

/-- Reads a number of seconds. -/
def seconds? (s : String) : Option Nat := Decimal.unsigned? mostSeconds s.toList

/-- Reads a variable, without the blanks around it. -/
def read {α : Type} (read? : List Char → Option α) (value : Option String) (standard : α) : α :=
  (value.bind fun value => read? (Text.trimChars value.toList)).getD standard

/-- The settings that an environment gives. -/
def ofEnvironment (value? : String → Option String) : Settings where
  nodeUrl := (value? "NODE_URL").getD "http://127.0.0.1:1980"
  bindAddress := (value? "BIND_ADDRESS").getD "0.0.0.0:8201"
  refreshSchedule := (value? "REFRESH_CRON").getD "0/30 * * * * *"
  thresholds :=
    ⟨read Decimal.figure? (value? "OVERLAP_LOW_MHZ") Thresholds.standard.low,
     read Decimal.figure? (value? "OVERLAP_HIGH_MHZ") Thresholds.standard.high⟩
  probeSeconds :=
    read (Decimal.unsigned? mostSeconds) (value? "PROBE_TIMEOUT_SECS") standardProbeSeconds

end Settings

end MeshConsole
