import GeoLayers.Edit.Batch
import GeoLayers.Proofs.Feature
import GeoLayers.Proofs.Json.Reading

/-!
Features that are sent back. The value of a feature is decoded as the feature. Its text is read as this
value with every floating-point number as it reads back, so the features of an answer are taken for
other features, or for none, if one of their numbers reads back as another.
-/

namespace GeoLayers

open Json

/-- The coordinates of features. -/
def Feature.coordinates (features : List Feature) : List Float :=
  features.flatMap fun feature => feature.geometry.elim [] fun geometry => geometry.shape.numbers

end GeoLayers
