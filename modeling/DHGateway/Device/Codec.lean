import DHGateway.Core.TextCodec
import DHGateway.Device.Registry

/-!
# The text of `platforms.json`

`Platform` and `Platforms` in the form in which their `XPACK` lines list the members. The
registry's results hold for every lawful codec; this is one.
-/

namespace DHGateway

open TextCodec

/-- A member of an object: its name in quotes and its value. -/
def member {α : Type} (name : String) (c : TextCodec α) : TextCodec α :=
  c.after ('"' :: name.toList ++ ['"', ':'])

def strMember (name : String) : TextCodec String :=
  member name (str.followedBy [','])

def intMember (name : String) : TextCodec ℤ :=
  member name (TextCodec.int ',' (by decide))

/-- The members of `Platform` in the order of its `XPACK` line. -/
def Platform.codec : TextCodec Platform :=
  via
    ((intMember "deviceType").pair <| (strMember "deviceId").pair <| (strMember "ip").pair <|
      (intMember "port").pair <| (strMember "username").pair <| (strMember "password").pair <|
      (strMember "msgId").pair <| (intMember "login_results").pair <|
      (strMember "login_err_msg").pair <| member "soft_del" (TextCodec.bool.followedBy ['\x7d']))
    (fun t => ⟨t.1, t.2.1, t.2.2.1, t.2.2.2.1, t.2.2.2.2.1, t.2.2.2.2.2.1, t.2.2.2.2.2.2.1,
      t.2.2.2.2.2.2.2.1, t.2.2.2.2.2.2.2.2.1, t.2.2.2.2.2.2.2.2.2⟩)
    (fun p => ⟨p.deviceType, p.deviceId, p.ip, p.port, p.username, p.password, p.msgId,
      p.loginResults, p.loginErrMsg, p.softDel⟩)
    (fun _ => rfl)

/-- `Platforms`. -/
def Platforms.codec : TextCodec Platforms :=
  via ((member "platforms" (list '\x7b' (by decide) Platform.codec)).after ['\x7b']
      |>.followedBy ['\x7d'])
    Platforms.mk Platforms.platforms (fun _ => rfl)

lemma Platform.codec_local : Platform.codec.Local := by
  have hint : ∀ name, (intMember name).Local := fun name => (int_local _).after _
  have hstr : ∀ name, (strMember name).Local := fun name => (str_local.followedBy _).after _
  exact Local.via ((hint _).pair <| (hstr _).pair <| (hstr _).pair <| (hint _).pair <|
    (hstr _).pair <| (hstr _).pair <| (hstr _).pair <| (hint _).pair <| (hstr _).pair <|
    (bool_local.followedBy _).after _) _

lemma Platforms.codec_local : Platforms.codec.Local :=
  Local.via ((((list_local _ Platform.codec_local).after _).after _).followedBy _) _

/-- `xpack::json::encode` and `xpack::json::decode` on this text. -/
def XPack.json : XPack where
  encode l := String.ofList (Platforms.codec.enc l)
  decode text := ((Platforms.codec.dec text.toList).map Prod.fst).getD ⟨[]⟩

lemma XPack.json_lawful : XPack.json.Lawful where
  decode_encode := by
    intro l
    have h := Platforms.codec.dec_enc l []
    rw [List.append_nil] at h
    simp [XPack.json, h]
  encode_ne := by
    intro l h
    have hnil : Platforms.codec.enc l = [] := by
      simpa [XPack.json] using congrArg String.toList h
    exact List.cons_ne_nil _ _ hnil

namespace Registry

namespace History

def twoRecorders : List Op :=
  [.add (Platform.new "1"), .add (Platform.new "2"), .refresh, .del "1"]

theorem copies_agree_two_recorders :
    ∃ s, Run.run (step XPack.json) (started XPack.json none) twoRecorders = some s ∧
      s.registry.ids.Nodup ∧ s.registry.file = some (XPack.json.encode s.registry.platformList) ∧
      ((boot s.registry.file).initPlatform XPack.json).2.platformList.platforms =
        [{ Platform.new "1" with softDel := true }, Platform.new "2"] := by
  refine ⟨_, rfl, ?_⟩
  have hfresh : Run.Meets (step XPack.json) Fresh (started XPack.json none) twoRecorders := by
    refine Run.meets_cons ?_ rfl (Run.meets_cons ?_ rfl ⟨trivial, fun _ _ => ⟨trivial, ?_⟩⟩)
    · exact List.not_mem_nil
    · show "2" ∉ ["1"]
      decide
    · exact fun _ _ => trivial
  have hfile : ((load XPack.json none).map Platform.deviceId).Nodup := List.nodup_nil
  obtain ⟨⟨hn, -, -⟩, hwritten, hlist, -⟩ := copies_agree XPack.json_lawful hfile rfl hfresh
  exact ⟨hn, hwritten rfl, hlist⟩

end History

end Registry

end DHGateway
