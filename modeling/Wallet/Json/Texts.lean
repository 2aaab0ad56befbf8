import Wallet.Json.Basic

/-!
# Texts inside JSON values
-/

namespace Wallet.Json

mutual

/-- The value with every text in it changed; the keys of objects stay. -/
def mapTexts (f : String → String) : Json → Json
  | .str s => .str (f s)
  | .arr items => .arr (mapItems f items)
  | .obj fields => .obj (mapFields f fields)
  | j => j

def mapItems (f : String → String) : List Json → List Json
  | [] => []
  | j :: rest => mapTexts f j :: mapItems f rest

def mapFields (f : String → String) : List (String × Json) → List (String × Json)
  | [] => []
  | (key, j) :: rest => (key, mapTexts f j) :: mapFields f rest

end

end Wallet.Json
