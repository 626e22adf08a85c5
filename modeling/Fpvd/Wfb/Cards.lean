import Fpvd.Lib.PyJson
import Fpvd.Gs.Schema

/-!
# Fpvd.Wfb.Cards — the cards of a link (`gs/fpvdgs/wfb/cards.py`)

`link.cards` is a list of names and objects, `"auto"`, or absent; `link.wlans` is the legacy key.
`parseCards` is `parse_cards`, with `none` for `"auto"`; `resolveCards` is `resolve_cards`.
-/

namespace Fpvd.Wfb

open Gs

/-- A card; without a host it is attached to the ground station itself. -/
structure Card where
  host : Option Json
  iface : Json
  sshUser : Json := .str "root"
  sshPort : ℤ := 22
  sshKey : Option Json := none
  txpowerDbm : Option Json := none
  initScript : Option Json := none
  deriving DecidableEq, Repr

def Card.isLocal (c : Card) : Bool := c.host.isNone

def Card.isRxOnly (c : Card) : Bool := c.txpowerDbm = some (.str "off")

/-- What the parser raises: three `ValueError`s of its own, or that of `int(sshPort)`. -/
inductive CardError where
  | missingIface
  | invalidEntry
  | remoteInWlans
  | sshPort (e : PyError)
  deriving DecidableEq, Repr

def CardError.valueError? : CardError → Option String
  | .missingIface => some "card object requires 'iface': "
  | .invalidEntry => some "invalid card entry: "
  | .remoteInWlans => some "link.wlans (legacy) cannot contain a remote card entry"
  | .sshPort .valueError => some "invalid literal for int() with base 10: "
  | .sshPort _ => none

section Parse

variable (py : PyNumbers)

def cardFromDict (d : Dict) : Except CardError Card :=
  match AssocMap.find? "iface" d with
  | none => .error .missingIface
  | some iface =>
    match Dict.int py d "sshPort" 22 with
    | .error e => .error (.sshPort e)
    | .ok sshPort => .ok {
        host := d.got "host"
        iface
        sshUser := d.getOr "sshUser" (.str "root")
        sshPort
        sshKey := d.got "sshKey"
        txpowerDbm := d.got "txPowerDbm"
        initScript := d.got "initScript" }

def parseEntry : Json → Except CardError Card
  | .str iface => .ok { host := none, iface := .str iface }
  | .obj d => cardFromDict py d
  | _ => .error .invalidEntry

def parseEntries (entries : List Json) : Except CardError (List Card) := entries.mapM (parseEntry py)

def parseCards (link : Dict) : Except CardError (Option (List Card)) :=
  match link.got "cards", link.got "wlans" with
  | some (.arr entries), _ => some <$> parseEntries py entries
  | _, some (.arr entries) => do
    let cards ← parseEntries py entries
    if cards.any (fun c => !c.isLocal) then .error .remoteInWlans else .ok (some cards)
  | _, _ => .ok none

def resolveCards (link : Dict) (nics : List String) : Except CardError (List Card) := do
  match ← parseCards py link with
  | some cards => return cards
  | none => return nics.map fun n => { host := none, iface := .str n }

end Parse

def hasRemote (cards : List Card) : Bool := cards.any fun c => !c.isLocal

end Fpvd.Wfb
