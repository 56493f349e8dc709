import ComponentSpec.Method.Groups
import ComponentSpec.NameCache
import ComponentSpec.Param.KeyedSet

set_option autoImplicit false

/-! # Final props and inject props

Raw props become final ones in two steps. The declared props take their cached names by position,
and of those with equal keys the first stays. Then each diff adds what it wraps, under the name
cached for its own position, unless the set holds the wrapped prop already. Inject props are
merged first and take their names after all props. -/

namespace ComponentSpec

/-- The set with what a diff wraps, where the diff stands at position `i`. -/
def addDiff (cache : NameCache) (s : KeyedSet PropParam) (i : Nat) (d : PropDiff) :
    KeyedSet PropParam :=
  if s.items.any (d.wraps (cache.get? i)) then s else (s.insert (cache.rename i d.underlying)).2

/-- The final props. The last `diffs.length` raw props are what the diffs wrap; the others are
declared. -/
def finalProps (raw : List PropParam) (diffs : List PropDiff) (cache : NameCache) :
    List PropParam :=
  let count := raw.length - diffs.length
  let declared := KeyedSet.ofList (cache.renameFrom 0 (raw.take count))
  ((diffs.zipIdx count).foldl (fun s (d, i) => addDiff cache s i d) declared).items

/-- The final inject props, their positions counted from the number of props. -/
def finalInjectProps (raw : List InjectParam) (cache : NameCache) (propCount : Nat) :
    List InjectParam :=
  cache.renameFrom propCount raw

end ComponentSpec
