import ResumableUpload.Session.Origin

/-!
# What opening a channel asks for

Of all ways to get a channel, only opening one asks the storage for something: for a session, after
the size of the chunks and, if there is one, the address were found to be good.

## Main definitions

* `Origin.options` — the options of the channel of an origin.
* `Origin.session?` — the call that asks for the session of a channel that is opened.
* `Origin.Connects` — the storage is asked for something.
-/

namespace ResumableUpload.Origin

/-- The options of the channel. -/
def options : Origin → ServiceOptions
  | made options .. => options
  | opened options .. => options
  | openedSigned options .. => options
  | restored snapshot => snapshot.options

/-- The call that asks for the session, if the channel is opened. -/
def session? : Origin → Option Call
  | opened options blob session _ => some ⟨options, .session blob session.wireParameters⟩
  | openedSigned options url _ => some ⟨options, .signedSession url⟩
  | _ => none

/-- The channel is opened, its chunk size can be settled, and its address names a blob. -/
def Connects (s : Service) : Origin → Prop
  | opened _ _ _ requested => (Channel.settleChunkSize requested s).1.isOk = true
  | openedSigned _ url requested =>
    (Channel.settleChunkSize requested s).1.isOk = true ∧ (SignedUrl.blob url).isOk = true
  | _ => False

end ResumableUpload.Origin
