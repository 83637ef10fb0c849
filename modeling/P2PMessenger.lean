import P2PMessenger.Octets
import P2PMessenger.Memory
import P2PMessenger.Layout
import P2PMessenger.Throwing
import P2PMessenger.Runs
import P2PMessenger.Walks
import P2PMessenger.Refinement
import P2PMessenger.Libraries
import P2PMessenger.Message
import P2PMessenger.Serializer
import P2PMessenger.Deserializer
import P2PMessenger.Addresses
import P2PMessenger.Stores
import P2PMessenger.Node
import P2PMessenger.Sender
import P2PMessenger.Receiver
import P2PMessenger.Sample
import P2PMessenger.Wire
import P2PMessenger.Narrowing
import P2PMessenger.Listening
import P2PMessenger.Delivery
import P2PMessenger.Bindings
import P2PMessenger.Kinds
import P2PMessenger.Beyond
import P2PMessenger.Fallback
import P2PMessenger.Network
import P2PMessenger.Transparency
import P2PMessenger.KeepAlive
import P2PMessenger.HolePunching
import P2PMessenger.Agreement
import P2PMessenger.Copies
import P2PMessenger.Relaying
import P2PMessenger.Contacts
import P2PMessenger.Announced
import P2PMessenger.DhtIpResolver
import P2PMessenger.Republishing
import P2PMessenger.ChatPage
import P2PMessenger.ContactList
import P2PMessenger.Shutdown
import P2PMessenger.Messenger
import P2PMessenger.Ledger
import P2PMessenger.Sealed
import P2PMessenger.Conversation
import P2PMessenger.Rendezvous
import P2PMessenger.Window
import P2PMessenger.Interleaving
import P2PMessenger.Schedule
import P2PMessenger.Serializable
import P2PMessenger.Discovery
import P2PMessenger.Intake
import P2PMessenger.Registrations
import P2PMessenger.LoginPage
import P2PMessenger.Users
