import Cep18.Model.Install
import Cep18.Model.Reference
import Cep18.Spec.Arguments

/-!
# What is sent arrives

* Code that reads the same reads nothing else: an entry point (`invoke_congr_reads`) and the
  session code (`call_congr`) do the same in environments that are the same on what they read.
* Values of the types that code reads come through their bytes (`Sent.same`).
* Reading an argument out of a buffer that the host fills is reading what its bytes mean
  (`optional_read`).

So the model with arguments as they are meant and the code with arguments as bytes do the same
(`arguments_arrive`).
-/

namespace Cep18

open Program Constants Decoder

variable {Key : Type}

/-! ### Bytes and values -/

theorem Wire.string_undoes (types : WireTypes Key) (text : String)
    (hfits : text.toUTF8.data.toList.length < 2 ^ 32) :
    (Wire.deserialize (Wire.stringFromBytes types.u32) (Wire.stringToBytes types.u32 text)).value? =
      some text := by
  have hcount : (UInt32.ofNat text.toUTF8.data.toList.length).toNat =
      text.toUTF8.data.toList.length := UInt32.toNat_ofNat_of_lt hfits
  have hbytes := decodeBytes_append BytesreprError.EarlyEndOfStream text.toUTF8.data.toList []
  rw [List.append_nil] at hbytes
  have hutf : String.fromUTF8? ⟨text.toUTF8.data.toList.toArray⟩ = some text := by
    rw [Array.toArray_toList]
    exact dif_pos text.isValidUTF8
  unfold Wire.deserialize whole Wire.stringFromBytes Wire.stringToBytes
  simp only [types.u32.undoes _ _, Decoded.thenDecode, hcount, hbytes, hutf]
  rfl

theorem Wire.vec_undoes (types : WireTypes Key) (list : List Key) (hfits : list.length < 2 ^ 32) :
    (Wire.deserialize (Wire.vecFromBytes types) (Wire.vecToBytes types list)).value? =
      some list := by
  have hcount : (UInt32.ofNat list.length).toNat = list.length := UInt32.toNat_ofNat_of_lt hfits
  have hlist := types.key.undoes.repeatDecode list []
  rw [List.append_nil] at hlist
  unfold Wire.deserialize whole Wire.vecFromBytes Wire.vecToBytes
  simp only [types.u32.undoes _ _, Decoded.thenDecode, hcount, hlist]
  rfl

/-- **A value comes through its bytes**, read at its type. -/
theorem ArgValue.comes_through (types : WireTypes Key) (v : ArgValue Key) (hfits : v.Fits) :
    match v with
    | .key k => (types.arg (v.toBytes types)).asKey = some k
    | .u256 n => (types.arg (v.toBytes types)).asU256 = some n
    | .u8 n => (types.arg (v.toBytes types)).asU8 = some n
    | .string text => (types.arg (v.toBytes types)).asString = some text
    | .keys list => (types.arg (v.toBytes types)).asKeys = some list := by
  cases v with
  | key k => exact congrArg Decoded.value? (types.key.undoes.whole _ k)
  | u256 n => exact congrArg Decoded.value? (types.u256.undoes.whole _ n)
  | u8 n => rfl
  | string text => exact Wire.string_undoes types text hfits
  | keys list => exact Wire.vec_undoes types list hfits

/-- What is sent as it is read is read as it is meant. -/
theorem Sent.same (types : WireTypes Key) {c : Sent Key} {reads : List (String × ArgType)}
    (h : c.Typed reads) : c.env.SameOn reads (c.received types) := by
  rintro ⟨name, type⟩ hp
  have hread : ∀ (T : Type) [FromArg Key T], (c.received types).read T name =
      (c.values name).map fun v => FromArg.fromArg (types.arg (v.toBytes types)) := by
    intro T _
    unfold Env.read Sent.received WireTypes.args
    simp only [Option.map_map]
    rfl
  have hmeant : ∀ (T : Type) [FromArg Key T], c.env.read T name =
      (c.values name).map fun v => FromArg.fromArg v.arg := by
    intro T _
    unfold Env.read Sent.env
    simp only [Option.map_map]
    rfl
  cases hv : c.values name with
  | none => cases type <;> simp only [ArgType.Same, hread, hmeant, hv, Option.map_none]
  | some v =>
    obtain ⟨htype, hfits⟩ := h _ hp v hv
    have hcomes := v.comes_through types hfits
    cases v <;> cases htype <;> simp only [ArgType.Same, hread, hmeant, hv, Option.map_some] <;>
      exact congrArg some hcomes

/-! ### Code that reads the same -/

variable [CasperKey Key] {D : ItemKeys Key} {env env' : Env Key}

section Reads

variable {V : Type} [FromArg Key V] {name : String}

theorem getNamedArg_read : (getNamedArg env name : HostM Key D V) =
    match env.read V name with
    | none => throw .missingArgument
    | some none => throw .invalidArgument
    | some (some value) => pure value := by
  unfold getNamedArg Env.read
  cases env.args name with
  | none => rfl
  | some arg =>
    simp only [Option.map_some]
    cases (FromArg.fromArg arg : Option V) <;> rfl

theorem getNamedArg_reads (h : env'.read V name = env.read V name) :
    (getNamedArg env' name : HostM Key D V) = getNamedArg env name := by
  rw [getNamedArg_read, getNamedArg_read, h]

theorem getOptionalNamedArg_read {invalid : Cep18Error} :
    (getOptionalNamedArgWithUserErrors env name invalid : HostM Key D (Option V)) =
      match env.read V name with
      | none => pure none
      | some none => if invalid = .Phantom then pure none else revert invalid
      | some (some value) => pure (some value) := by
  unfold getOptionalNamedArgWithUserErrors getNamedArgWithUserErrors Env.read
  cases env.args name with
  | none => rfl
  | some arg =>
    simp only [Option.map_some]
    cases (FromArg.fromArg arg : Option V) with
    | none => cases invalid <;> rfl
    | some value => rfl

theorem getOptionalNamedArg_reads (h : env'.read V name = env.read V name) (invalid : Cep18Error) :
    (getOptionalNamedArgWithUserErrors env' name invalid : HostM Key D (Option V)) =
      getOptionalNamedArgWithUserErrors env name invalid := by
  rw [getOptionalNamedArg_read, getOptionalNamedArg_read, h]

end Reads

/-- **An entry point depends on what it reads** and on its immediate caller; only `init` looks at
the account that started the deploy. -/
theorem invoke_congr_reads {entryPoint : EntryPoint}
    (hcaller : (getImmediateCallerAddress env' : Except Cep18Error Key) =
      getImmediateCallerAddress env)
    (hinit : entryPoint = .init → env'.caller = env.caller)
    (hargs : env.SameOn entryPoint.reads env') :
    (invoke entryPoint env' : HostM Key D CLValue) = invoke entryPoint env := by
  have hcheck : ∀ badges, (secCheck env' badges : HostM Key D Unit) = secCheck env badges := by
    intro badges
    unfold secCheck
    rw [hcaller]
  unfold Env.SameOn at hargs
  cases entryPoint <;>
    simp only [EntryPoint.reads, List.forall_mem_cons, List.not_mem_nil, false_imp_iff,
      implies_true, and_true, ArgType.Same] at hargs <;>
    simp only [invoke]
  case init =>
    obtain ⟨hpackage, hsupply, hadmin, hminter⟩ := hargs
    simp only [init, hinit rfl, getNamedArg_reads hpackage, getNamedArg_reads hsupply,
      getOptionalNamedArg_reads hadmin, getOptionalNamedArg_reads hminter]
  case balanceOf => simp only [balanceOf, getNamedArg_reads hargs]
  case changeSecurity =>
    obtain ⟨hadmin, hminter, hnone⟩ := hargs
    simp only [changeSecurity, hcheck, hcaller, getOptionalNamedArg_reads hadmin,
      getOptionalNamedArg_reads hminter, getOptionalNamedArg_reads hnone]
  case transferFrom =>
    obtain ⟨hrecipient, howner, hamount⟩ := hargs
    simp only [transferFrom, hcaller, getNamedArg_reads hrecipient, getNamedArg_reads howner,
      getNamedArg_reads hamount]
  all_goals
    obtain ⟨hfirst, hsecond⟩ := hargs
    simp only [transfer, approve, allowance, decreaseAllowance, increaseAllowance,
      adjustAllowance, burn, mint, hcheck, hcaller, getNamedArg_reads hfirst,
      getNamedArg_reads hsecond]

/-- **So does the session code**, on what it reads and on whoever calls it. -/
theorem call_congr (hstack : env'.callStack = env.callStack) (hcaller : env'.caller = env.caller)
    (hargs : env.SameOn sessionReads env') : (call env' : HostM Key D Unit) = call env := by
  unfold Env.SameOn at hargs
  simp only [sessionReads, List.forall_mem_cons, List.not_mem_nil, false_imp_iff, implies_true,
    and_true, ArgType.Same] at hargs
  obtain ⟨hname, hsymbol, hdecimals, hsupply, hmode, hadmin, hminter, hflag⟩ := hargs
  have hcall : ∀ contract entryPoint args,
      (callContract env' contract entryPoint args : HostM Key D CLValue) =
        callContract env contract entryPoint args := by
    intro contract entryPoint args
    unfold callContract
    rw [hstack, hcaller]
  have hinstall : ∀ name, (installContract env' name : HostM Key D Unit) =
      installContract env name := by
    intro name
    simp only [installContract, hcall, getNamedArg_reads hsymbol, getNamedArg_reads hdecimals,
      getNamedArg_reads hsupply, getOptionalNamedArg_reads hmode, getOptionalNamedArg_reads hadmin,
      getOptionalNamedArg_reads hminter, getOptionalNamedArg_reads hflag]
  simp only [call, getNamedArg_reads hname, hinstall]

/-! ### Buffers -/

section Buffers

variable {ffi : ExtFfi} {args : String → Option Bytes} {T : Type}
variable {fromBytes : Bytes → Decoded BytesreprError T}

/-- **What is read out of the buffer** is what the argument's bytes mean. -/
theorem ExtFfi.Serves.argument (h : ffi.Serves args) (hn : NeverPanics fromBytes) (name : String)
    (missing invalid : Cep18Error) :
    (Wire.getNamedArgWithUserErrors ffi fromBytes name missing invalid :
        HostM Key D (Except Cep18Error T)) =
      pure (match (args name).map fun bytes => (Wire.deserialize fromBytes bytes).value? with
        | none => .error missing
        | some none => .error invalid
        | some (some value) => .ok value) := by
  unfold Wire.getNamedArgWithUserErrors Wire.getNamedArgSize
  cases ha : args name with
  | none => rw [h.missing name ha]; rfl
  | some bytes =>
    have hpanic : Wire.deserialize fromBytes bytes ≠ .panic := hn.whole _ bytes
    rw [h.size name bytes ha]
    simp only [pure_bind, Option.map_some]
    split_ifs with hpos
    · -- whatever was in the buffer, the bytes take all of it
      have halloc := h.alloc bytes.length
      rw [h.fill name bytes _ ha (le_of_eq halloc.symm), List.drop_eq_nil_of_le (le_of_eq halloc),
        List.append_nil]
      simp only [Except.toOption, unwrapOrRevertWith_some, pure_bind]
      cases hd : Wire.deserialize fromBytes bytes with
      | ok value rest => rfl
      | err e => rfl
      | panic => exact absurd hd hpanic
    · obtain rfl : bytes = [] := List.eq_nil_of_length_eq_zero (by omega)
      cases hd : Wire.deserialize fromBytes [] with
      | ok value rest => rfl
      | err e => rfl
      | panic => exact absurd hd hpanic

/-- **Reading an optional argument out of a buffer** is reading it in the rest of the model. -/
theorem optional_read {types : WireTypes Key} [FromArg Key T] (h : ffi.Serves args)
    (hn : NeverPanics fromBytes) (hargs : env.args = types.args args)
    (hT : ∀ bytes, (FromArg.fromArg (types.arg bytes) : Option T) =
      (Wire.deserialize fromBytes bytes).value?) (name : String) (invalid : Cep18Error) :
    (Wire.getOptionalNamedArgWithUserErrors ffi fromBytes name invalid :
        HostM Key D (Option T)) = getOptionalNamedArgWithUserErrors env name invalid := by
  have hread : env.read T name =
      (args name).map fun bytes => (Wire.deserialize fromBytes bytes).value? := by
    unfold Env.read
    rw [hargs]
    show ((args name).map types.arg).map _ = _
    cases args name with
    | none => rfl
    | some bytes => exact congrArg some (hT bytes)
  unfold Wire.getOptionalNamedArgWithUserErrors
  rw [h.argument hn, getOptionalNamedArg_read, hread, pure_bind]
  cases (args name).map fun bytes => (Wire.deserialize fromBytes bytes).value? with
  | none => rfl
  | some value =>
    cases value with
    | some value => rfl
    | none => cases invalid <;> rfl

end Buffers

omit [CasperKey Key] in
theorem vecFromBytes_neverPanics (types : WireTypes Key) :
    NeverPanics (Wire.vecFromBytes types) :=
  types.u32.neverPanics.thenDecode fun count => types.key.neverPanics.repeatDecode count.toNat

theorem u8FromBytes_neverPanics : NeverPanics Wire.u8FromBytes := by
  intro bytes h
  cases bytes <;> cases h

/-- **What is sent arrives.** With arguments as bytes,

* the session code and every entry point do what they do with arguments as they were meant, if
  what they read was given at the types it is read at;
* an optional argument is read out of a buffer of the host as it is read there. -/
theorem arguments_arrive (types : WireTypes Key) {ffi : ExtFfi} {args : String → Option Bytes}
    (h : ffi.Serves args) :
    (∀ c : Sent Key, c.Typed sessionReads →
        (call (c.received types) : HostM Key D Unit) = call c.env) ∧
      (∀ (entryPoint : EntryPoint) (c : Sent Key), c.Typed entryPoint.reads →
        (invoke entryPoint (c.received types) : HostM Key D CLValue) = invoke entryPoint c.env) ∧
      ∀ env : Env Key, env.args = types.args args → ∀ (name : String) (invalid : Cep18Error),
        (Wire.getOptionalNamedArgWithUserErrors ffi (Wire.vecFromBytes types) name invalid :
            HostM Key D (Option (List Key))) =
          getOptionalNamedArgWithUserErrors env name invalid ∧
        (Wire.getOptionalNamedArgWithUserErrors ffi Wire.u8FromBytes name invalid :
            HostM Key D (Option UInt8)) =
          getOptionalNamedArgWithUserErrors env name invalid :=
  ⟨fun _ hc => call_congr rfl rfl (Sent.same types hc),
    fun _ _ hc => invoke_congr_reads rfl (fun _ => rfl) (Sent.same types hc),
    fun _ hargs name invalid =>
      ⟨optional_read h (vecFromBytes_neverPanics types) hargs (fun _ => rfl) name invalid,
        optional_read h u8FromBytes_neverPanics hargs (fun _ => rfl) name invalid⟩⟩

/-- A host that serves `args`. Its buffers come with something in them. -/
def ExtFfi.serving (args : String → Option Bytes) : ExtFfi where
  casperGetNamedArgSize name :=
    match args name with
    | some bytes => .ok bytes.length
    | none => .error .missingArgument
  casperGetNamedArg name buffer :=
    match args name with
    | some bytes =>
      if bytes.length ≤ buffer.length then .ok (bytes ++ buffer.drop bytes.length) else .error .host
    | none => .error .missingArgument
  allocBytes n := List.replicate n 255

theorem ExtFfi.serving_serves (args : String → Option Bytes) : (serving args).Serves args where
  missing name h := by simp [serving, h]
  size name bytes h := by simp [serving, h]
  fill name bytes buffer h hle := by simp [serving, h, hle]
  alloc n := List.length_replicate

/-- Account 1 sends a list of two keys that are to lose their badges. -/
def plainSent : Sent PlainKey where
  callStack := [.Session 1, .StoredContract 0 0]
  caller := 1
  values name := if name = NONE_LIST then some (.keys [.account 2, .hash 3]) else none

/-- The list arrives, and is read out of a buffer. -/
theorem arguments_arrive_plain :
    (invoke .changeSecurity (plainSent.received plainTypes) :
        HostM PlainKey plainItems.toItemKeys CLValue) = invoke .changeSecurity plainSent.env ∧
      (Wire.getOptionalNamedArgWithUserErrors
          (.serving fun name => (plainSent.values name).map (ArgValue.toBytes plainTypes))
          (Wire.vecFromBytes plainTypes) NONE_LIST .InvalidNoneList :
        HostM PlainKey plainItems.toItemKeys (Option (List PlainKey))) =
          pure (some [.account 2, .hash 3]) := by
  obtain ⟨-, hinvoke, hread⟩ := arguments_arrive (D := plainItems.toItemKeys) plainTypes
    (ExtFfi.serving_serves fun name => (plainSent.values name).map (ArgValue.toBytes plainTypes))
  constructor
  · refine hinvoke .changeSecurity plainSent fun p hp v hv => ?_
    simp only [EntryPoint.reads, List.mem_cons, List.not_mem_nil, or_false] at hp
    rcases hp with rfl | rfl | rfl
    · cases hv
    · cases hv
    · cases hv
      exact ⟨rfl, show 2 < 2 ^ 32 by decide⟩
  · refine (hread (plainSent.received plainTypes) rfl NONE_LIST .InvalidNoneList).1.trans ?_
    rfl

end Cep18
