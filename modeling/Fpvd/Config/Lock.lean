import Fpvd.Config.Codec

/-!
# Fpvd.Config.Lock — the dynamic-link lock (`drone/src/config/lock.cpp`)

While dynamic link is enabled in the merged pending configuration, a patch may not write a path that
lies under, or above, a locked one.
-/

namespace Fpvd

def kLockedPaths : List (List String) :=
  [["link", "mcs"], ["link", "fec", "k"], ["link", "fec", "n"], ["link", "txPowerDbm"],
   ["video", "bitrate"], ["video", "qpDelta"], ["video", "roi"]]

mutual

/-- Every path that a patch body writes: leaves and empty objects. -/
def collectWrittenPaths : (body : Json) → (path : List String) → List (List String)
  | .obj [], path => [path]
  | .obj (m :: ms), path => collectMembers (m :: ms) path
  | _, path => [path]

def collectMembers : List (String × Json) → (path : List String) → List (List String)
  | [], _ => []
  | (k, v) :: ms, path => collectWrittenPaths v (path ++ [k]) ++ collectMembers ms path

end

def joinDotted (p : List String) : String := ".".intercalate p

def isUnderPrefix (path above : List String) : Bool := above.isPrefixOf path

def isAncestorOf (path below : List String) : Bool := isUnderPrefix below path

structure LockResult where
  ok : Bool
  lockedPaths : List String
  deriving DecidableEq, Repr

def checkDynamicLinkLock (patchBody : Json) (mergedPending : Config) : LockResult :=
  if !mergedPending.dynamicLink.enabled then ⟨true, []⟩
  else if !patchBody.isObject then ⟨true, []⟩
  else if patchBody = .obj [] then ⟨true, []⟩
  else
    let locked := ((collectWrittenPaths patchBody []).filter fun w =>
      kLockedPaths.any fun lk => isUnderPrefix w lk || isAncestorOf w lk).map joinDotted
    ⟨locked.isEmpty, locked⟩

end Fpvd
