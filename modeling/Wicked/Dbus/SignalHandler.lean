import Wicked.Dbus.PathToDevice

/-!
# The addrconf signal handler

`ni_objectmodel_addrconf_signal_handler` (`src/src/dbus-objects/addrconf.c`, lines 149-219)
handles the `LeaseAcquired`, `LeaseReleased` and `LeaseLost` signals of an addrconf
supplicant. It parses the signal's arguments into `argv[16]`, finds the interface from the
object path, builds a lease and hands it to `__ni_system_interface_update_lease`; at `done:` it
destroys the parsed arguments and frees the lease unless the interface took it.

* **Effects are a record.** The calls with an effect outside the handler,
  `__ni_system_interface_update_lease`, `ni_objectmodel_interface_event`,
  `ni_dbus_variant_destroy` and `ni_addrconf_lease_free`, are `SignalEffect`s, in order.
* **What the callees answer is a parameter**, gathered in `SignalEnv`.
* **An access outside `argv` is a fault**, and so is the signed overflow of `argc--` at
  `INT_MIN`: C leaves both undefined, and the model stops there.

`signalHandler_negative_argc`: when the argument parse fails with a negative count, the cleanup
loop `while (argc--)` indexes below `argv`.
-/

namespace Wicked

/-- An undefined step of the handler. -/
inductive HandlerFault
  /-- a read past the NUL of the object path -/
  | path (e : ReadFault)
  /-- `&argv[index]` for an index outside `0..15` -/
  | argvOutOfBounds (index : ℤ)
  /-- `argc--` with `argc == INT_MIN` -/
  | signedOverflow
deriving DecidableEq, Repr

/-- `INT_MIN` for a 32-bit `int`. -/
def intMin : ℤ := -2147483648

/-- The length of `ni_dbus_variant_t argv[16]`. -/
def argvLength : ℤ := 16

/-- `while (argc--) ni_dbus_variant_destroy(&argv[argc]);`: the slots destroyed, in order. -/
def cleanupArgv (argc : ℤ) : Except HandlerFault (List ℕ) :=
  if argc = 0 then .ok []
  else if argc = intMin then .error .signedOverflow
  else if 0 ≤ argc - 1 ∧ argc - 1 < argvLength then
    (cleanupArgv (argc - 1)).map ((argc - 1).toNat :: ·)
  else .error (.argvOutOfBounds (argc - 1))
termination_by argc.toNat
decreasing_by simp_wf; omega

/-- The events the handler sends with `ni_objectmodel_interface_event`. -/
inductive InterfaceEvent
  | networkUp
  | networkDown
  | addressLost
deriving DecidableEq, Repr

/-- A call of the handler with an effect outside it. -/
inductive SignalEffect
  /-- `__ni_system_interface_update_lease(ifp, &lease)`, with `lease->state` -/
  | updateLease (ifindex state : ℕ)
  /-- `ni_objectmodel_interface_event(NULL, ifp, event)` -/
  | event (ifindex : ℕ) (event : InterfaceEvent)
  /-- `ni_dbus_variant_destroy(&argv[slot])` -/
  | destroyArg (slot : ℕ)
  /-- `ni_addrconf_lease_free(lease)` -/
  | freeLease
deriving DecidableEq, Repr

/-- What the handler's callees answer for one message, and the constants it uses. -/
structure SignalEnv where
  /-- `ni_dbus_message_get_args_variants(msg, argv, 16)` -/
  argc : ℤ
  /-- `WICKED_DBUS_OBJECT_PATH` -/
  objectPath : CString
  /-- `ni_parse_int`, `none` for a negative return -/
  niParseInt : List Char → Option ℕ
  /-- whether `ni_global_state_handle(1)` returns a handle -/
  refreshOk : Bool
  /-- `ni_interface_by_index(nc, ifindex)`, the interface found by its `ifindex` -/
  interfaceByIndex : ℕ → Option ℕ
  /-- `WICKED_DBUS_DHCP4_INTERFACE` -/
  dhcp4Interface : String
  /-- whether `ni_addrconf_lease_new(NI_ADDRCONF_DHCP, AF_INET)` returns a lease -/
  leaseNewOk : Bool
  /-- whether `ni_objectmodel_set_addrconf_lease(lease, &argv[0])` succeeds -/
  setLeaseOk : Bool
  /-- `lease->state` once the lease is built -/
  leaseState : ℕ
  /-- `NI_ADDRCONF_STATE_GRANTED` -/
  granted : ℕ
  /-- `NI_ADDRCONF_STATE_RELEASED` -/
  released : ℕ
  /-- `NI_ADDRCONF_STATE_FAILED` -/
  failed : ℕ
  /-- whether `__ni_system_interface_update_lease` takes the lease, setting the pointer to
  `NULL` -/
  updateTakes : Bool
  /-- `__ni_interface_is_up(ifp)` after the update -/
  isUp : Bool
  /-- `__ni_interface_is_down(ifp)` after the update -/
  isDown : Bool

/-- The parts of the D-Bus message the handler reads. -/
structure SignalMsg where
  /-- `dbus_message_get_member(msg)`, the signal name -/
  member : String
  /-- `dbus_message_get_path(msg)` -/
  path : CString
  /-- `dbus_message_get_interface(msg)` -/
  interface : String

variable (E : SignalEnv) (msg : SignalMsg)

/-- `ni_objectmodel_interface_to_lease(interface)`: whether it returns a new lease, which it
does for the DHCPv4 supplicant's interface only. -/
def niObjectmodelInterfaceToLease (interface : String) : Bool :=
  interface = E.dhcp4Interface && E.leaseNewOk

/-- The signals the handler tells apart. -/
inductive LeaseSignal
  | acquired
  | released
  | lost
  | unknown
deriving DecidableEq, Repr

/-- The `strcmp` chain on the signal name (lines 188-212). -/
def leaseSignal (name : String) : LeaseSignal :=
  if name = "LeaseAcquired" then .acquired
  else if name = "LeaseReleased" then .released
  else if name = "LeaseLost" then .lost
  else .unknown

/-- Lines 155-212 of the handler, up to `done:`: the effects, and whether `lease` is not
`NULL` when it gets there. -/
def signalDispatch : Except HandlerFault (List SignalEffect × Bool) := do
  if E.argc < 0 then return ([], false)
  let some ifp ← (niObjectmodelAddrconfPathToDevice E.objectPath E.niParseInt E.refreshOk
      E.interfaceByIndex msg.path).mapError .path | return ([], false)
  if !niObjectmodelInterfaceToLease E msg.interface then return ([], false)
  if 1 ≤ E.argc && !E.setLeaseOk then return ([], true)
  match leaseSignal msg.member with
  | .acquired =>
    if E.leaseState ≠ E.granted then return ([], true)
    return (.updateLease ifp E.leaseState :: if E.isUp then [.event ifp .networkUp] else [],
      !E.updateTakes)
  | .released =>
    return (.updateLease ifp E.released :: if E.isDown then [.event ifp .networkDown] else [],
      !E.updateTakes)
  | .lost => return ([.updateLease ifp E.failed, .event ifp .addressLost], !E.updateTakes)
  | .unknown => return ([], true)

/-- `ni_objectmodel_addrconf_signal_handler(conn, msg, user_data)`: the dispatch, then at
`done:` the cleanup loop and `ni_addrconf_lease_free` when `lease` is not `NULL`. -/
def niObjectmodelAddrconfSignalHandler : Except HandlerFault (List SignalEffect) := do
  let (effects, lease) ← signalDispatch E msg
  let slots ← cleanupArgv E.argc
  return effects ++ slots.map .destroyArg ++ if lease then [.freeLease] else []

/-! ### The cleanup loop -/

/-- For a negative count other than `INT_MIN`, the loop's first step indexes `argv[argc-1]`. -/
theorem cleanupArgv_of_neg {argc : ℤ} (hneg : argc < 0) (hmin : argc ≠ intMin) :
    cleanupArgv argc = .error (.argvOutOfBounds (argc - 1)) := by
  rw [cleanupArgv, if_neg (Int.ne_of_lt hneg), if_neg hmin, if_neg (by omega)]

/-! ### The handler -/

/-- The callees' answers for a `LeaseAcquired` signal from the DHCPv4 supplicant whose arguments
parsed into `argc` variants: the object path is `/w`, the DHCPv4 interface `dhcp4`, the lease
is granted, and the interface, now up, does not take the lease. -/
def SignalEnv.sample (argc : ℤ) : SignalEnv where
  argc := argc
  objectPath := ⟨"/w".toList, by decide⟩
  niParseInt rest := if rest = ['3'] then some 3 else none
  refreshOk := true
  interfaceByIndex ifindex := some ifindex
  dhcp4Interface := "dhcp4"
  leaseNewOk := true
  setLeaseOk := true
  leaseState := 2
  granted := 2
  released := 4
  failed := 5
  updateTakes := false
  isUp := true
  isDown := false

/-- `LeaseAcquired` on `/w/dhcp4/Interface/3` from `dhcp4`. -/
def SignalMsg.sample : SignalMsg :=
  ⟨"LeaseAcquired", ⟨"/w/dhcp4/Interface/3".toList, by decide⟩, "dhcp4"⟩

/-- **The cleanup indexes below `argv` when the argument parse fails.** For a negative count
other than `INT_MIN` the handler goes to `done:` at once, and the first step of
`while (argc--)` destroys `argv[argc - 1]`, outside the array. -/
theorem signalHandler_negative_argc (hneg : E.argc < 0) (hmin : E.argc ≠ intMin) :
    niObjectmodelAddrconfSignalHandler E msg = .error (.argvOutOfBounds (E.argc - 1)) := by
  simp [niObjectmodelAddrconfSignalHandler, signalDispatch, hneg, cleanupArgv_of_neg hneg hmin,
    bind, Except.bind, pure, Except.pure]

theorem signalHandler_argc_minus_one :
    (SignalEnv.sample (-1)).argc < 0 ∧ (SignalEnv.sample (-1)).argc ≠ intMin ∧
      niObjectmodelAddrconfSignalHandler (SignalEnv.sample (-1)) SignalMsg.sample =
        .error (.argvOutOfBounds ((SignalEnv.sample (-1)).argc - 1)) :=
  ⟨by decide, by decide, signalHandler_negative_argc _ _ (by decide) (by decide)⟩

end Wicked
