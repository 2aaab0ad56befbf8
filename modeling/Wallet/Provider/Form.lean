import Wallet.Provider.Classifier

/-!
# The JSON form of classifiers

A classifier is a list of designations, each an array of a code and an outcome; a designation that
cannot be read is left out. A registry is an object with a classifier for all providers and an array
of providers, each with a classifier of its own.
-/

namespace Wallet

open Json

/-- Adds a designation. -/
def Classifier.addJson (c : Classifier) : Json → Classifier
  | .arr [.str code, outcome] =>
      match ofJson? outcome with
      | some o => c.designate (.of code) o
      | none => c
  | _ => c

/-- The classifier with the designations of a list; without a list, the standard one. -/
def Classifier.ofJson : Json → Classifier
  | .arr designations => designations.foldl addJson plain
  | _ => standard

/-- Adds a provider with its classifier. -/
def ClassifierRegistry.addJson (r : ClassifierRegistry) : Json → ClassifierRegistry
  | .arr [.str code, c] => r.register (.of code) (.ofJson c)
  | _ => r

/-- The registry with the classifiers of an object. -/
def ClassifierRegistry.ofJson : Json → ClassifierRegistry
  | .obj fields =>
      let start := ofFallback (.ofJson ((fields.lookup "fallback").getD .null))
      match fields.lookup "providers" with
      | some (.arr providers) => providers.foldl addJson start
      | _ => start
  | _ => standard

end Wallet
