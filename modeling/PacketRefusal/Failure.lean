/-!
# Failures while packets are handled

`BuildError` lists the ways in which a reply could fail to be built, `HandlingError` everything
that can fail while packets are handled. None of them ends the program; each is logged with the
text of `HandlingError.message`.
-/

set_option autoImplicit false
set_option relaxedAutoImplicit false

namespace PacketRefusal

/-- Why a reply cannot be built or its checksums cannot be computed. -/
inductive BuildError
  | missingIpv4
  | missingIpv6
  | missingTcp
  | templateSize
  | unknownVersion
  | shortIpv4
  | ipv4Lengths
  | shortIpv6
  | ipv6Lengths
  | shortTcp
  | shortUdp
  | shortIcmp
  | shortIcmpv6
  deriving DecidableEq

def BuildError.cause : BuildError → String
  | missingIpv4 => "IPv4 ヘッダーがありません"
  | missingIpv6 => "IPv6 ヘッダーがありません"
  | missingTcp => "TCP ヘッダーがありません"
  | templateSize => "テンプレートのサイズが不正です"
  | unknownVersion => "IP バージョンが不正です"
  | shortIpv4 => "IPv4 ヘッダーが短すぎます"
  | ipv4Lengths => "IPv4 の長さフィールドが不正です"
  | shortIpv6 => "IPv6 ヘッダーが短すぎます"
  | ipv6Lengths => "IPv6 の長さフィールドが不正です"
  | shortTcp => "TCP ヘッダーが短すぎます"
  | shortUdp => "UDP ヘッダーが短すぎます"
  | shortIcmp => "ICMP ヘッダーが短すぎます"
  | shortIcmpv6 => "ICMPv6 ヘッダーが短すぎます"

/-- What failed while packets were received, answered or sent, with the text of its cause. -/
inductive HandlingError
  | receiving (cause : String)
  | sending (cause : String)
  | building (cause : String)
  deriving DecidableEq

def HandlingError.message : HandlingError → String
  | receiving cause => "パケットの受信に失敗しました: " ++ cause
  | sending cause => "パケットの送信に失敗しました: " ++ cause
  | building cause => "応答パケットの構築に失敗しました: " ++ cause

/-- A reply that cannot be built, as a failure of handling. -/
def BuildError.toHandlingError (error : BuildError) : HandlingError := .building error.cause

end PacketRefusal
