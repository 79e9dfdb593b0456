import NetworkLayer.Config.Encoding
import NetworkLayer.Toml.Layout

/-! The lock file of a configuration: the same configuration with nothing left to defaults. -/

namespace NetworkLayer

/-- The entries of the lock file that was made at some time. -/
def Config.lockEntries (config : Config) (made : String) : List (String × Toml.Value) :=
  ("generated_at", .text made) :: config.encode

/-- The text of the lock file that was made at some time. -/
def Config.lock (config : Config) (made : String) : String :=
  Toml.render (config.lockEntries made)

end NetworkLayer
