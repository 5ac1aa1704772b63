import GoWaku.Basic
import GoWaku.Pb
import GoWaku.Rln.Engine
import GoWaku.Rln.Static
import GoWaku.Rln.Membership
import GoWaku.Rln.Window
import GoWaku.Rln.Common
import GoWaku.Filter.Node
import GoWaku.Filter.Light
import GoWaku.Filter.Delivery
import GoWaku.Filter.Network
import GoWaku.Node.Enr
import GoWaku.Node.EnrUpdates
import GoWaku.Node.Address
import GoWaku.Node.Setup
import GoWaku.Node.Patch
