import GalaxyProjector.Build.Dotenv

/-!
The firmware's build step. It loads WiFi credentials from a `.env` file into
the environment (warning when it cannot), tells cargo when to run again and
which credentials to bake in, and adds the linker scripts. Called by the linker
with `undefined-symbol <name>` instead, it explains the missing symbol and
stops; called with another first argument it fails.
-/

namespace GalaxyProjector

namespace Build

structure Run where
  stdout : String := ""
  stderr : String := ""
  exit : Nat := 0
  deriving DecidableEq, Repr

def hint (symbol : String) : Option String :=
  if symbol.startsWith "_defmt_" then
    some "`defmt` Logger fehlt - `esp-println` braucht das Feature `defmt-espflash` und `defmt.x` muss gelinkt sein"
  else if symbol == "_stack_start" then some "Linker-Skript `linkall.x` fehlt"
  else if symbol.startsWith "esp_rtos_" then
    some "`esp-radio` findet keinen Scheduler - wurde `esp_rtos::start()` in main.rs aufgerufen?"
  else if ["free", "malloc", "calloc", "malloc_internal", "calloc_internal", "realloc_internal",
      "free_internal", "get_free_internal_heap_size"].contains symbol then
    some "WiFi braucht `esp-alloc` (Heap für die Radio-Pakete)"
  else none

def credentialKeys : List String := ["WIFI_SSID", "WIFI_PASSWORD"]

/-- Run the build step with environment `env`, the `.env` text if there is a
file, the arguments after the program name, and the program's own path. -/
def run (env : Dotenv.Env) (dotenv : Option String) (args : List String) (exe : String) : Run :=
  let (env, failure) := match dotenv with
    | some text => Dotenv.load env text
    | none => (env, some .notFound)
  let warning := match failure with
    | some e => "⚠️  .env file nicht gefunden: " ++ e.message ++ "\n" ++
        "   Ohne WIFI_SSID/WIFI_PASSWORD läuft die Firmware offline\n"
    | none => ""
  let rerun := "cargo:rerun-if-changed=.env\ncargo:rerun-if-env-changed=WIFI_SSID\n" ++
    "cargo:rerun-if-env-changed=WIFI_PASSWORD\n"
  let baked := String.join (credentialKeys.filterMap fun k =>
    (env.lookup k).map fun v => "cargo:rustc-env=" ++ k ++ "=" ++ v ++ "\n")
  let out := rerun ++ baked
  match args with
  | kind :: what :: _ =>
    if kind != "undefined-symbol" then { stdout := out, stderr := warning, exit := 1 }
    else
      let note := match hint what with
        | some h => "\n💡 " ++ h ++ "\n\n"
        | none => ""
      { stdout := out, stderr := warning ++ note, exit := 0 }
  | _ =>
    { stdout := out ++ "cargo:rustc-link-arg=--error-handling-script=" ++ exe ++ "\n" ++
        "cargo:rustc-link-arg=-Tdefmt.x\ncargo:rustc-link-arg=-Tlinkall.x\n"
      stderr := warning, exit := 0 }

end Build

end GalaxyProjector
