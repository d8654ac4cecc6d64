import CosmicMounter.Saves.Storage

/-!
# The save paths

The seven ways in which `app.rs` changes the stored configuration: the edit
that each makes, and what it loads, checks and writes.
-/

namespace CosmicMounter

open Rust

/-- Change the first element that satisfies the predicate, if there is one. -/
def updateFirst {α : Type} (p : α → Bool) (f : α → α) : List α → Option (List α)
  | [] => none
  | a :: rest => if p a then some (f a :: rest) else (updateFirst p f rest).map (a :: ·)

/-! ## Edits -/

namespace ConfigDocument

def saveConnection (connection : Connection) (document : ConfigDocument) : ConfigDocument :=
  { document with
    connections := (updateFirst (·.id == connection.id) (fun _ ↦ connection) document.connections).getD
      (document.connections ++ [connection]) }

def removeConnection (id : ConnectionId) (document : ConfigDocument) : ConfigDocument :=
  { document with connections := document.connections.filter (·.id != id) }

def importConnection (connection : Connection) (document : ConfigDocument) : ConfigDocument :=
  if document.connections.any (·.id == connection.id) then document
  else { document with connections := document.connections ++ [connection] }

def moveConnection (current target : Nat) (document : ConfigDocument) : ConfigDocument :=
  match document.connections[current]? with
  | none => document
  | some connection =>
      let others := document.connections.eraseIdx current
      { document with connections := others.insertIdx (min target others.length) connection }

def position (id : ConnectionId) (document : ConfigDocument) : Option Nat :=
  document.connections.findIdx? (·.id == id)

/-- Moving a connection to a position, counted from one. -/
def reorder (id : ConnectionId) (newPosition : Nat) (document : ConfigDocument) : ConfigDocument :=
  match document.position id with
  | none => document
  | some current => document.moveConnection current (newPosition - 1)

def sameVpnReference (existing detected : VpnProfile) : Bool :=
  existing.kind == detected.kind &&
    match detected.kind with
    | .networkManager =>
        existing.externalProfileId == detected.externalProfileId && detected.externalProfileId.isSome
    | .legacyCisco => false

def updateDetectedVpnProfile (detected existing : VpnProfile) : VpnProfile :=
  { existing with
    name := detected.name
    readinessChecks := detected.readinessChecks
    timeoutSeconds := detected.timeoutSeconds }

def importVpn (profiles : List VpnProfile) (detected : VpnProfile) : List VpnProfile :=
  (updateFirst (sameVpnReference · detected) (updateDetectedVpnProfile detected) profiles).getD
    (profiles ++ [detected])

def importVpns (detected : List VpnProfile) (document : ConfigDocument) : ConfigDocument :=
  { document with vpnProfiles := detected.foldl importVpn document.vpnProfiles }

end ConfigDocument

inductive RuntimePreference
  | setUnmount (value : Bool)
  | setRestore (value : Bool)
  | setPreload (value : PreloadSettings)
  deriving DecidableEq, Repr

def ConfigDocument.setPreference (document : ConfigDocument) : RuntimePreference → ConfigDocument
  | .setUnmount value => { document with unmountBeforeSleep := value }
  | .setRestore value => { document with restoreAfterWake := value }
  | .setPreload value => { document with preload := value }

def Connection.setStartAtLogin (desiredOn : Bool) (connection : Connection) : Connection :=
  match connection.mode with
  | .onlineMount options => { connection with mode := .onlineMount { options with startAtLogin := desiredOn } }
  | .offlineMirror _ => connection

def ConfigDocument.setStartAtLogin (id : ConnectionId) (desiredOn : Bool) (document : ConfigDocument) :
    ConfigDocument :=
  { document with
    connections := (updateFirst (·.id == id) (Connection.setStartAtLogin desiredOn) document.connections).getD
      document.connections }

/-! ## Calls -/

inductive Outcome
  | refused
  | failed
  | saved
  deriving DecidableEq, Repr

/-- A save that is made without waiting, with what it takes from elsewhere: whether the
markers of a retargeted mirror could be removed, and the detected profiles. -/
inductive Save
  | draft (connection : Connection) (markersRemoved : Bool)
  | reorder (id : ConnectionId) (newPosition : Nat)
  | remove (connection : Connection)
  | confirmImport (connection : Connection)
  | detectVpns (profiles : List VpnProfile)
  | preference (preference : RuntimePreference)
  deriving DecidableEq, Repr

/-- The call's own edit. -/
def Save.edit : Save → ConfigDocument → ConfigDocument
  | .draft connection _ => (·.saveConnection connection)
  | .reorder id newPosition => (·.reorder id newPosition)
  | .remove connection => (·.removeConnection connection.id)
  | .confirmImport connection => (·.importConnection connection)
  | .detectVpns profiles => (·.importVpns profiles)
  | .preference command => (·.setPreference command)

/-- What a call does: its outcome, the window's copy and what is stored afterwards. -/
structure Effect where
  outcome : Outcome
  held : Config
  stored : Stored
  deriving DecidableEq

/-- Whether the two writes of a call succeed: migrating the first format, and saving. -/
structure Writes where
  migration : Bool
  save : Bool
  deriving DecidableEq, Repr

section Paths

variable (ext : Externals) (writes : Writes)

def effectOf (saved : Saved) : Effect :=
  ⟨match saved.result with | .ok _ => .saved | .error _ => .failed, saved.config, saved.stored⟩

/-- The path of a call that loads the document, checks it, and then saves its edit of it. -/
def reloading (held : Config) (stored : Stored) (refuses : ConfigDocument → Bool)
    (update : ConfigDocument → ConfigDocument) : Effect :=
  match (stored.load ext writes.migration).1.complete with
  | .error _ => ⟨.refused, held, (stored.load ext writes.migration).2⟩
  | .ok config =>
      if refuses config.document then ⟨.refused, config, (stored.load ext writes.migration).2⟩
      else effectOf (config.updateValidatedWith ext writes.save (stored.load ext writes.migration).2 update)

def saveValidatedDraft (held : Config) (stored : Stored) (connection : Connection) (markersRemoved : Bool) :
    Effect :=
  reloading ext writes held stored
    (fun document ↦ document.connections.any (·.id == connection.id) && !markersRemoved)
    (·.saveConnection connection)

/-- The position is looked up in the window's copy, which is also what is edited. -/
def reorderConnection (held : Config) (stored : Stored) (id : ConnectionId) (newPosition : Nat) : Effect :=
  match held.document.position id with
  | none => ⟨.refused, held, stored⟩
  | some current =>
      if newPosition = 0 ∨ newPosition > held.document.connections.length ∨ current = newPosition - 1 then
        ⟨.refused, held, stored⟩
      else effectOf (held.updateValidatedWith ext writes.save stored
        (·.moveConnection current (newPosition - 1)))

def removeConfirmedConnection (held : Config) (stored : Stored) (connection : Connection) : Effect :=
  reloading ext writes held stored (fun document ↦ decide (connection ∉ document.connections))
    (·.removeConnection connection.id)

def confirmImport (held : Config) (stored : Stored) (connection : Connection) : Effect :=
  reloading ext writes held stored (fun _ ↦ false) (·.importConnection connection)

def detectAndImportVpns (held : Config) (stored : Stored) (profiles : List VpnProfile) : Effect :=
  reloading ext writes held stored (fun _ ↦ false) (·.importVpns profiles)

def applyRuntimeCommand (held : Config) (stored : Stored) (command : RuntimePreference) : Effect :=
  reloading ext writes held stored (fun _ ↦ false) (·.setPreference command)

def Save.run (held : Config) (stored : Stored) : Save → Effect
  | .draft connection markersRemoved => saveValidatedDraft ext writes held stored connection markersRemoved
  | .reorder id newPosition => reorderConnection ext writes held stored id newPosition
  | .remove connection => removeConfirmedConnection ext writes held stored connection
  | .confirmImport connection => CosmicMounter.confirmImport ext writes held stored connection
  | .detectVpns profiles => detectAndImportVpns ext writes held stored profiles
  | .preference command => applyRuntimeCommand ext writes held stored command

/-! ## The startup state of the popup -/

/-- A call of `persist_online_popup_state` that waits for the service manager. -/
structure PopupSave where
  id : ConnectionId
  desiredOn : Bool
  config : Config
  deriving DecidableEq, Repr

def PopupSave.edit (popup : PopupSave) : ConfigDocument → ConfigDocument :=
  (·.setStartAtLogin popup.id popup.desiredOn)

def isOnlineMount (id : ConnectionId) (document : ConfigDocument) : Bool :=
  (document.connections.find? (·.id == id)).any fun connection ↦
    match connection.mode with
    | .onlineMount _ => true
    | .offlineMirror _ => false

/-- What is loaded before the service manager is asked. -/
def beginPopup (stored : Stored) (id : ConnectionId) (desiredOn : Bool) : Option PopupSave × Stored :=
  match (stored.load ext writes.migration).1.complete with
  | .error _ => (none, (stored.load ext writes.migration).2)
  | .ok config =>
      (if isOnlineMount id config.document then some ⟨id, desiredOn, config⟩ else none,
        (stored.load ext writes.migration).2)

/-- What is written once the service manager has answered. -/
def PopupSave.finish (popup : PopupSave) (stored : Stored) (managerOk : Bool) : Outcome × Stored :=
  if managerOk then
    let saved := popup.config.updateValidatedWith ext writes.save stored popup.edit
    ((effectOf saved).outcome, saved.stored)
  else (.failed, stored)

end Paths

end CosmicMounter
