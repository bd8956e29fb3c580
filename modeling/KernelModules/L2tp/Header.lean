import KernelModules.L2tp.Types

/-!
# Data headers

`l2tp_session_set_header_len` decides how much room a data header gets, and the two header builders
write it, the sequence number included. A builder writes into memory from the start of the header
on, the payload behind the header among it: nothing in it stops at the length that was set aside.
-/

set_option autoImplicit false
set_option relaxedAutoImplicit false

namespace KernelModules.L2tp

open Foundations

variable {n : ℕ}

/-- `l2tp_session_set_header_len`: the sum is an `int`, the field has sixteen bits. -/
def l2tpSessionSetHeaderLen (tunnel : L2tpTunnel n) (session : L2tpSession n) (version : ℕ) :
    L2tpSession n :=
  if version = hdrVer2 then
    { session with hdrLen := if session.sendSeq then 6 + 4 else 6 }
  else
    let hdrLen := UInt16.ofNat (4 + session.cookie.bytes.length + session.l2specificLen.toNat +
      session.offset.toNat)
    { session with hdrLen := if tunnel.encap = .udp then hdrLen + 4 else hdrLen }

/-- `l2tp_build_l2tpv2_header`: flags, the peer's tunnel and session ids, and, when the session
sends sequence numbers, Ns and a zero Nr. -/
def l2tpBuildL2tpv2Header (tunnel : L2tpTunnel n) (session : L2tpSession n) (buf : List UInt8) :
    L2tpSession n × List UInt8 :=
  let flags := UInt16.ofNat hdrVer2
  if session.sendSeq then
    ({ session with ns := (session.ns + 1) &&& 0xffff },
      writeAt buf 0 (be16 (flags ||| hdrflagS) ++ be16 tunnel.peerTunnelId.toUInt16 ++
        be16 session.peerSessionId.toUInt16 ++ be16 session.ns.toUInt16 ++ be16 0))
  else
    (session, writeAt buf 0 (be16 flags ++ be16 tunnel.peerTunnelId.toUInt16 ++
      be16 session.peerSessionId.toUInt16))

/-- The word `l2tp_build_l2tpv3_header` writes for the default sublayer. -/
def l2hWord (session : L2tpSession n) : UInt32 :=
  if session.sendSeq then 0x40000000 ||| session.ns else 0

/-- The sublayer part of `l2tp_build_l2tpv3_header`, at `bufp`. The word has four bytes whatever
`l2specific_len` says. -/
def buildL2specific (session : L2tpSession n) (buf : List UInt8) (bufp : ℕ) :
    L2tpSession n × List UInt8 :=
  if session.l2specificLen ≠ 0 ∧ session.l2specificType = l2spectypeDefault then
    (if session.sendSeq then { session with ns := (session.ns + 1) &&& 0xffffff } else session,
      writeAt buf bufp (be32 (l2hWord session)))
  else (session, buf)

/-- `l2tp_build_l2tpv3_header`: four bytes of flags under UDP, the peer's session id, the cookie,
the sublayer, and the offset, which is skipped. -/
def l2tpBuildL2tpv3Header (tunnel : L2tpTunnel n) (session : L2tpSession n) (buf : List UInt8) :
    L2tpSession n × List UInt8 :=
  let (buf, bufp) :=
    if tunnel.encap = .udp then (writeAt buf 0 (be16 (UInt16.ofNat hdrVer3) ++ be16 0), 4)
    else (buf, 0)
  let buf := writeAt buf bufp (be32 session.peerSessionId)
  let buf := writeAt buf (bufp + 4) session.cookie.bytes
  buildL2specific session buf (bufp + 4 + session.cookie.bytes.length)

/-- `session->build_header(session, buf)`. -/
def buildHeader (tunnel : L2tpTunnel n) (session : L2tpSession n) (buf : List UInt8) :
    L2tpSession n × List UInt8 :=
  match session.buildHeader with
  | .l2tpBuildL2tpv2Header => l2tpBuildL2tpv2Header tunnel session buf
  | .l2tpBuildL2tpv3Header => l2tpBuildL2tpv3Header tunnel session buf

end KernelModules.L2tp
