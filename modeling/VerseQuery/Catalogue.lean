/-
# Ready-made requests
-/
import VerseQuery.Request

namespace VerseQuery

/-- A request with a name to ask for it by. -/
structure CatalogueEntry where
  name : String
  description : String
  request : Request
  deriving DecidableEq

namespace Catalogue

/-- A rule with its distance within the bounds. -/
def near (first second : String) (distance : Int64) : ProximityRule :=
  (ProximityRule.mk first second distance).clamped

/-- The ready-made requests, in the order in which they are offered. -/
def entries : List CatalogueEntry :=
  [ { name := "fear-not"
      description := "\"Fear\" followed closely by \"not\""
      request := .ofRules [near "fear" "not" 3] },
    { name := "grace-through-faith"
      description := "Grace alongside faith, without works"
      request := ((Request.ofText "grace" .wholeWord).requiring ["faith"]).excluding ["works"] },
    { name := "kingdom-of-heaven"
      description := "\"Kingdom\" near \"heaven\" or \"God\""
      request := .ofRules [near "kingdom" "heaven" 2, near "kingdom" "God" 2] },
    { name := "lamps-and-lights"
      description := "Lamps and lights, singular or plural"
      request := (Request.ofText "lamp" .wholeWord).withPlurals.requiring ["light"] },
    { name := "love-and-synonyms"
      description := "Love, including synonyms such as charity"
      request := (Request.ofText "love" .wordStartsWith).withSynonyms 5 },
    { name := "in-the-beginning"
      description := "Verses opening with \"In the beginning\""
      request := .ofText "In the beginning" .startsWith } ]

/-- The ready-made request of that name. -/
def find? (name : String) : Option CatalogueEntry :=
  entries.find? (·.name == name)

end Catalogue

end VerseQuery
